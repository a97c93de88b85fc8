import BackupConsole.Text.Ascii
import BackupConsole.Text.Blank

set_option autoImplicit false

namespace BackupConsole.Job

open Text

inductive ArchiveType where
  | normal
  | full
  | incremental
  | differential
  | continuous
deriving DecidableEq, Repr, Inhabited

namespace ArchiveType

def all : List ArchiveType := [.normal, .full, .incremental, .differential, .continuous]

def rank (t : ArchiveType) : Nat := all.idxOf t

def name : ArchiveType → String
  | .normal => "normal"
  | .full => "full"
  | .incremental => "incremental"
  | .differential => "differential"
  | .continuous => "continuous"

def ofText? (s : List Char) : Option ArchiveType :=
  all.find? fun t => sameIgnoringCase t.name.toList (trim s)

def unknownText (s : String) : String := "unknown archive type '" ++ s ++ "'"

theorem mem_all (t : ArchiveType) : t ∈ all := by cases t <;> decide

theorem ofText?_name (t : ArchiveType) : ofText? t.name.toList = some t := by cases t <;> decide

theorem dark_name (t : ArchiveType) : ∀ c ∈ t.name.toList, isBlank c = false := by
  cases t <;> exact dark_of_all rfl

end ArchiveType

end BackupConsole.Job
