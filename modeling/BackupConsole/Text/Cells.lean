import BackupConsole.Text.Blank
import BackupConsole.Text.Cluster
import BackupConsole.Text.Width

set_option autoImplicit false

namespace BackupConsole.Text

abbrev Cell := List Char

def blank : Cell := [' ']

def frame : Cell := []

def fitClusters (room : Nat) : List (List Char) → List (List Char)
  | [] => []
  | unit :: rest =>
    if room < width unit then [] else unit :: fitClusters (room - width unit) rest

def clusterCells (unit : List Char) : List Cell :=
  unit :: List.replicate (width unit - 1) blank

/-- A line of a paragraph: units without a width are left out, and so are line feeds. -/
def paragraphCells (room : Nat) (s : List Char) : List Cell :=
  let units := (clusters s).filter fun unit => unit != ['\n'] && width unit ≤ room
  ((fitClusters room units).filter fun unit => 0 < width unit).flatMap clusterCells

/-- A label: controls are left out too, and there is no more room than the text is wide. -/
def labelCells (room : Nat) (s : List Char) : List Cell :=
  let units := (clusters s).filter fun unit => !unit.any isControl && 0 < width unit
  (fitClusters (min room (width s)) units).flatMap clusterCells

def putCluster (cells : List Cell) (unit : List Char) : List Cell :=
  if width unit = 0 then cells.dropLast ++ [(cells.getLast?.getD []) ++ unit]
  else cells ++ clusterCells unit

/-- A field: units without a width stand with the unit before them, those at the start with the
first one that has a width. -/
def fieldCells (room : Nat) (s : List Char) : List Cell :=
  let units := fitClusters room ((clusters s).filter (· != ['\n']))
  let lead := (units.takeWhile (width · == 0)).flatten
  if room = 0 || width s = 0 then []
  else
    match units.dropWhile (width · == 0) with
    | [] => if lead.isEmpty then [] else [lead]
    | unit :: rest =>
      rest.foldl putCluster ((lead ++ unit) :: List.replicate (width unit - 1) blank)

def padded (filler : Cell) (room : Nat) (cells : List Cell) : List Cell :=
  cells ++ List.replicate (room - cells.length) filler

def overlay (column : Nat) (above row : List Cell) : List Cell :=
  row.take column ++ above ++ row.drop (column + above.length)

def joinedCells (room : Nat) (texts : List (List Char)) : List Cell :=
  let add (drawn : Nat × List Cell) (text : List Char) : Nat × List Cell :=
    let (column, row) := drawn
    (column + width text,
      overlay column (fieldCells (room - column) text) (padded frame column row))
  (texts.foldl add (0, [])).2

def shownAfter (covered : Bool) : List Cell → List Char
  | [] => []
  | cell :: rest => (if covered then blank else cell) ++ shownAfter (1 < width cell) rest

/-- What is seen of a row: a wide unit covers what stands in the next cell. -/
def shown (row : List Cell) : String := String.ofList (shownAfter false row)

theorem length_padded {filler : Cell} {room : Nat} {cells : List Cell}
    (fits : cells.length ≤ room) : (padded filler room cells).length = room := by
  simp only [padded, List.length_append, List.length_replicate]
  omega

theorem length_overlay {column : Nat} {above row : List Cell}
    (fits : column + above.length ≤ row.length) :
    (overlay column above row).length = row.length := by
  simp only [overlay, List.length_append, List.length_take, List.length_drop]
  omega

theorem sum_width_fitClusters_le (room : Nat) (units : List (List Char)) :
    ((fitClusters room units).map width).foldr (· + ·) 0 ≤ room := by
  induction units generalizing room with
  | nil => simp [fitClusters]
  | cons unit rest ih =>
    unfold fitClusters
    split
    · simp
    · have := ih (room - width unit)
      simp only [List.map_cons, List.foldr_cons]
      omega

end BackupConsole.Text
