import BackupConsole.Text.Cluster.Edge

/-!
# Visible units of a text

A reader takes a letter with its accents, a syllable, a flag or a family of emoji for one character.
`clusters` divides a text into such units: the extended grapheme clusters of Unicode. Whether a
character starts a new one depends on the cluster so far, of which a `Tail` keeps what matters.
-/

set_option autoImplicit false

namespace BackupConsole.Text

structure Tail where
  last : Edge
  pictured : Bool
  joined : Bool
  unpaired : Bool
  /-- It ends with a consonant and marks; of them one is a linker if the value is true. -/
  linked : Option Bool
deriving DecidableEq, Repr

namespace Tail

def start (c : Char) : Tail :=
  let edge := Edge.of c
  { last := edge
    pictured := edge = .pictograph
    joined := false
    unpaired := edge = .regional
    linked := if edge = .conjunct then some false else none }

def admits (t : Tail) (edge : Edge) : Bool :=
  match t.last, edge with
  | .carriageReturn, .lineFeed => true
  | .carriageReturn, _ | .lineFeed, _ | .separate, _ => false
  | _, .carriageReturn | _, .lineFeed | _, .separate => false
  | .initialJamo, .initialJamo | .initialJamo, .vowelJamo => true
  | .initialJamo, .openSyllable | .initialJamo, .closedSyllable => true
  | .openSyllable, .vowelJamo | .openSyllable, .finalJamo => true
  | .vowelJamo, .vowelJamo | .vowelJamo, .finalJamo => true
  | .closedSyllable, .finalJamo | .finalJamo, .finalJamo => true
  | _, .extending | _, .joiner | _, .spacing => true
  | .prepending, _ => true
  | _, .conjunct => t.linked = some true
  | _, .pictograph => t.joined
  | _, .regional => t.unpaired
  | _, _ => false

def push (t : Tail) (c : Char) : Tail :=
  let edge := Edge.of c
  { last := edge
    pictured := edge = .pictograph || (edge = .extending && t.pictured)
    joined := edge = .joiner && t.pictured
    unpaired := edge = .regional && !t.unpaired
    linked :=
      if edge = .conjunct then some false
      else if edge = .joiner then t.linked
      else if edge = .extending && c.toNat != 0x200C then t.linked.map (· || isLinker c)
      else none }

end Tail

/-- The rest of the open cluster, and the clusters after it. -/
def clustersAfter (t : Tail) : List Char → List Char × List (List Char)
  | [] => ([], [])
  | c :: rest =>
    if t.admits (Edge.of c) then
      let (more, others) := clustersAfter (t.push c) rest
      (c :: more, others)
    else
      let (more, others) := clustersAfter (Tail.start c) rest
      ([], (c :: more) :: others)

def clusters : List Char → List (List Char)
  | [] => []
  | c :: rest =>
    let (more, others) := clustersAfter (Tail.start c) rest
    (c :: more) :: others

theorem flatten_clustersAfter (t : Tail) (s : List Char) :
    (clustersAfter t s).1 ++ (clustersAfter t s).2.flatten = s := by
  induction s generalizing t with
  | nil => rfl
  | cons c rest ih =>
    unfold clustersAfter
    split
    · simpa using ih (t.push c)
    · simpa using ih (Tail.start c)

theorem flatten_clusters (s : List Char) : (clusters s).flatten = s := by
  cases s with
  | nil => rfl
  | cons c rest => simpa [clusters] using flatten_clustersAfter (Tail.start c) rest

end BackupConsole.Text
