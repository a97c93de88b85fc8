import BackupConsole.Number.Binary64

set_option autoImplicit false

namespace BackupConsole.Config

open Number

inductive Value where
  | text (s : String)
  | character (c : Char)
  | boolean (b : Bool)
  | unsigned (n : UInt64)
  | signed (n : Int64)
  | float (x : Binary64)
  | empty
  | list (items : List Value)
  | table (entries : List (String × Value))
deriving Repr, Inhabited

abbrev Layer := List (String × Value)

/-- The number of a value, if it is a whole one. -/
def Value.whole? : Value → Option Int
  | .unsigned n => some n.toNat
  | .signed n => some n.toInt
  | _ => none

/-- The name that a date or a time stands under. -/
def momentEntry : String := "$__toml_private_datetime"

def Value.moment (text : String) : Value := .table [(momentEntry, .text text)]

mutual

/-- The earlier value with the later one laid over it. -/
def Value.merge : Value → Value → Value
  | .table old, .table new => .table (mergeEntries old new)
  | _, new => new
termination_by _ new => (sizeOf new, 0)

def mergeEntries (old : List (String × Value)) : List (String × Value) → List (String × Value)
  | [] => old
  | (key, value) :: rest => mergeEntries (mergeEntry key value old) rest
termination_by new => (sizeOf new, 0)

def mergeEntry (key : String) (value : Value) : List (String × Value) → List (String × Value)
  | [] => [(key, value)]
  | (k, v) :: rest =>
    if k = key then (k, v.merge value) :: rest else (k, v) :: mergeEntry key value rest
termination_by entries => (sizeOf value, entries.length + 1)

end

end BackupConsole.Config
