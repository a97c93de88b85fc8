import BackupConsole.Dashboard.App
import BackupConsole.Text.Cells
import BackupConsole.Text.Pieces

set_option autoImplicit false

namespace BackupConsole.Dashboard

open Text Job

def screenWidth : Nat := 300

def screenHeight : Nat := 44

def frameWidth : Nat := 298

def dialogWidth : Nat := 44

def footerTop : Nat := 41

def tableHeight : Nat := 23

def messageHeight : Nat := 3

def line (s : String) : String := shown (paragraphCells frameWidth s.toList)

def title (s : String) : String :=
  let texts := lines s.toList
  shown (joinedCells (min frameWidth ((texts.map width).foldr (· + ·) 0)) texts)

def label (s : String) : String := shown (labelCells frameWidth s.toList)

def columns : List (String × Nat) :=
  [ ("Name", 198), ("State", 18), ("Type", 12), ("Part size", 10), ("Compress", 14), ("Crypt", 10),
    ("Last run", 17), ("Remaining", 10) ]

def tableLine (mark : String) (cells : List String) : String :=
  let fields := (cells.zip columns).map fun (cell, _, width) =>
    padded blank width (fieldCells width cell.toList)
  mark ++ " ".intercalate (fields.map shown)

def firstLine (s : String) : String := String.ofList ((lines s.toList).headD [])

def jobCells (state : RunState) (job : Snapshot) : List String :=
  [ job.name, job.displayState state, job.archiveType.name, job.partSizeText, job.compressionText,
    job.cryptText, job.lastExecutedText, job.estimatedText ].map firstLine

def firstShown (cursor : Nat) : Nat := cursor + 1 - tableHeight

def header (a : App) : List String :=
  let fatal :=
    match a.console.fatal with
    | some message => "  disconnected: " ++ message
    | none => ""
  [ "barctl",
    line ("  " ++ a.server ++ "  " ++ a.console.board.runState.label ++ "  sort: " ++
      a.console.table.sortKey.text ++ fatal) ]

def jobTable (a : App) : List String :=
  let jobs := a.console.table.jobs
  if jobs.isEmpty then ["Jobs", "  No jobs"]
  else
    let cursor := min a.cursor (jobs.length - 1)
    let rows := jobs.zipIdx.map fun (job, i) =>
      tableLine (if i = cursor then "> " else "  ") (jobCells a.console.board.runState job)
    "Jobs" :: tableLine "  " (columns.map Prod.fst) ::
      (rows.drop (firstShown cursor)).take tableHeight

/-- The last `room` characters of a text that is longer, behind three dots that count too. -/
def shorten (room : Nat) (s : String) : String :=
  let chars := s.toList
  if chars.length ≤ room then s
  else "..." ++ String.ofList (chars.drop (chars.length - (room - 3)))

def countText (count size : UInt64) : String :=
  toString count.toNat ++ " (" ++ bytesText size ++ ")"

def detailLines (d : Detail) : List String :=
  let totals := if d.collectingTotals then " (counting)" else ""
  let requested :=
    if 0 < d.requestedVolumeNumber then
      " (requested " ++ toString d.requestedVolumeNumber.toNat ++ ")"
    else ""
  let message := ((lines d.message.toList).take messageHeight).map String.ofList
  [ line (" done " ++ countText d.doneCount d.doneSize ++ "  skipped " ++
      countText d.skippedEntryCount d.skippedEntrySize ++ "  errors " ++
      countText d.errorEntryCount d.errorEntrySize),
    line (" rate " ++ d.entriesPerSecond.toTenths ++ " entries/s  " ++
      bytesText d.bytesPerSecond.toUInt64 ++ "/s  storage " ++
      bytesText d.storageBytesPerSecond.toUInt64 ++ "/s  archive " ++ bytesText d.archiveSize ++
      "  ratio " ++ d.compressionText),
    label ("entries " ++ toString d.doneCount.toNat ++ "/" ++ toString d.totalEntryCount.toNat ++
      totals),
    label ("bytes " ++ bytesText d.doneSize ++ "/" ++ bytesText d.totalEntrySize ++ totals),
    label (shorten 60 d.entryName),
    label (shorten 60 d.storageName),
    label ("volume " ++ toString d.volumeNumber.toNat ++ requested) ] ++ message.map line

def detailFrame (a : App) : List String :=
  let name :=
    match a.cursorJob? with
    | some job => title ("Job '" ++ job.name ++ "'")
    | none => "Job"
  name ::
    match a.console.board.detail with
    | some detail => detailLines detail
    | none => ["  Nothing selected"]

def screen (a : App) : List String := header a ++ jobTable a ++ detailFrame a

def dialogRows (name : String) (items : List String) : List (List Cell) :=
  let inside := dialogWidth - 2
  let framed (filler : Cell) (cells : List Cell) : List Cell :=
    frame :: padded filler inside cells ++ [frame]
  framed frame (fieldCells inside name.toList) ::
    ((items.take (screenHeight - 2)).map fun item =>
      framed blank (fieldCells inside (' ' :: item.toList))) ++
    [List.replicate dialogWidth frame]

def dialog (a : App) : List (List Cell) :=
  match a.mode with
  | .normal => []
  | .startMenu _ => dialogRows "Start as" (ArchiveType.all.map ArchiveType.name)
  | .password _ input => dialogRows "Crypt password" [String.ofList (input.map fun _ => '*')]
  | .confirmAbort => dialogRows "Abort running job?" ["[y] Yes  [Esc] No"]
  | .pause input => dialogRows "Pause for seconds" [String.ofList input]
  | .volume input => dialogRows "Load volume number" [String.ofList input]
  | .schedules _ => dialogRows "Trigger schedule" (a.schedules.map Schedule.text)

def dialogTop (a : App) : Nat := (screenHeight - (dialog a).length) / 2

def popup (a : App) : List String := ((dialog a).take (footerTop - dialogTop a)).map shown

def helpText (a : App) : String :=
  match a.mode with
  | .normal =>
    "[↑↓] Select  [s] Start  [a] Abort  [p] Pause  [t] " ++ a.console.board.runState.toggleLabel ++
      "  [R] Reset  [v/u] Volume  [c] Schedules  [o] Sort  [q] Quit"
  | .confirmAbort => "[y] Abort  [Esc] Cancel"
  | _ => "[Enter] Confirm  [Esc] Cancel"

def footerText (a : App) : String :=
  let note :=
    match a.error, a.status with
    | some error, _ => "  Error: " ++ error
    | none, some status => "  " ++ status
    | none, none => ""
  "  " ++ helpText a ++ note

/-- The last three rows of the screen: the line at the bottom in its frame, and what a dialog as
high as the screen leaves of it. -/
def footer (a : App) : List String :=
  let rule := List.replicate screenWidth frame
  let text := paragraphCells frameWidth (footerText a).toList
  let above := dialog a
  [rule, frame :: padded blank frameWidth text ++ [frame], rule].zipIdx.map fun (row, i) =>
    match above[footerTop + i - dialogTop a]? with
    | some cells => shown (overlay ((screenWidth - dialogWidth) / 2) cells row)
    | none => shown row

end BackupConsole.Dashboard
