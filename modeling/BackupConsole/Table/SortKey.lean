import BackupConsole.Job.Snapshot

set_option autoImplicit false

namespace BackupConsole

open Text Job

inductive SortKey where
  | name
  | state
  | type
  | partSize
  | compression
  | crypt
  | lastExecuted
  | estimatedTime
deriving DecidableEq, Repr, Inhabited

namespace SortKey

def all : List SortKey :=
  [.name, .state, .type, .partSize, .compression, .crypt, .lastExecuted, .estimatedTime]

def text : SortKey → String
  | .name => "name"
  | .state => "state"
  | .type => "type"
  | .partSize => "part-size"
  | .compression => "compression"
  | .crypt => "crypt"
  | .lastExecuted => "last-executed"
  | .estimatedTime => "estimated-time"

def ofText? (s : List Char) : Option SortKey :=
  all.find? fun key => sameIgnoringCase key.text.toList (trim s)

def unknownText (s : String) : String := "unknown sort key '" ++ s ++ "'"

def next : SortKey → SortKey
  | .name => .state
  | .state => .type
  | .type => .partSize
  | .partSize => .compression
  | .compression => .crypt
  | .crypt => .lastExecuted
  | .lastExecuted => .estimatedTime
  | .estimatedTime => .name

def compare : SortKey → Snapshot → Snapshot → Ordering
  | .name, a, b => Ord.compare a.name b.name
  | .state, a, b => Ord.compare a.state.rank b.state.rank
  | .type, a, b => Ord.compare a.archiveType.rank b.archiveType.rank
  | .partSize, a, b => Ord.compare a.archivePartSize.toNat b.archivePartSize.toNat
  | .compression, a, b => Ord.compare a.compressionText b.compressionText
  | .crypt, a, b => Ord.compare a.cryptText b.cryptText
  | .lastExecuted, a, b => Ord.compare a.lastExecutedAt.toInt b.lastExecutedAt.toInt
  | .estimatedTime, a, b => Ord.compare a.estimatedRestSeconds.toNat b.estimatedRestSeconds.toNat

def le (key : SortKey) (a b : Snapshot) : Bool := (key.compare a b).isLE

def sort (key : SortKey) (jobs : List Snapshot) : List Snapshot := jobs.mergeSort key.le

theorem mem_all (key : SortKey) : key ∈ all := by cases key <;> decide

end SortKey

end BackupConsole
