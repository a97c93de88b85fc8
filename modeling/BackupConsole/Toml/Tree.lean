import BackupConsole.Config.Value

/-!
# Tables of a settings file while it is read

A table comes into being by its header, by a header of a table inside it, or by a dotted key. A
table may get a header of its own only once and not after dotted keys, dotted keys may only go on a
table that has no header, and no name is given twice. Under a name with an array of tables, the last
table of the array is meant.
-/

set_option autoImplicit false

namespace BackupConsole.Toml

open Config

/-- What stands under a name: a value, a table, or an array of tables of which the last one is still
read. An implicit table has no header of its own; a dotted one comes from a dotted key. -/
inductive Node where
  | value (v : Value)
  | table (implicit dotted : Bool) (entries : List (String × Node))
  | tables (finished : List Value) (entries : List (String × Node))

abbrev Entries := List (String × Node)

mutual

def Node.toValue : Node → Value
  | .value v => v
  | .table _ _ entries => .table (entryValues entries)
  | .tables finished entries => .list (finished ++ [.table (entryValues entries)])

def entryValues : List (String × Node) → List (String × Value)
  | [] => []
  | (key, node) :: rest => (key, node.toValue) :: entryValues rest

end

theorem entryValues_eq_map (entries : Entries) :
    entryValues entries = entries.map fun (key, node) => (key, node.toValue) := by
  induction entries with
  | nil => rw [entryValues, List.map_nil]
  | cons entry entries ih => rw [entryValues, ih, List.map_cons]

namespace Entries

def replace (key : String) (node : Node) (entries : Entries) : Entries :=
  entries.map fun (k, old) => (k, if k = key then node else old)

/-- The entries with a change made to the table at a path, where missing tables are made on the way.
The change is told whether the table comes from a dotted key; `dotted` says whether the path
does. -/
def update? (dotted : Bool) (change : Bool → Entries → Option Entries) :
    List String → Bool → Entries → Option Entries
  | [], isDotted, entries => change isDotted entries
  | key :: path, _, entries =>
    match entries.lookup key with
    | none =>
      (update? dotted change path dotted []).map fun inner =>
        entries ++ [(key, .table true dotted inner)]
    | some (.value _) => none
    | some (.tables finished inner) =>
      (update? dotted change path false inner).map fun inner =>
        replace key (.tables finished inner) entries
    | some (.table implicit isDotted inner) =>
      if dotted && !implicit then none
      else
        (update? dotted change path isDotted inner).map fun inner =>
          replace key (.table implicit isDotted inner) entries

def insert? (path : List String) (key : String) (v : Value) (isDotted : Bool)
    (entries : Entries) : Option Entries :=
  let add (isDotted : Bool) (entries : Entries) : Option Entries :=
    if isDotted == path.isEmpty || (entries.lookup key).isSome then none
    else some (entries ++ [(key, .value v)])
  update? true add path isDotted entries

def openTable? (path : List String) (key : String) (entries : Entries) : Option Entries :=
  let start (_ : Bool) (entries : Entries) : Option Entries :=
    match entries.lookup key with
    | none => some (entries ++ [(key, .table false false [])])
    | some (.table true false inner) => some (replace key (.table false false inner) entries)
    | some _ => none
  update? false start path false entries

def openElement? (path : List String) (key : String) (entries : Entries) : Option Entries :=
  let start (_ : Bool) (entries : Entries) : Option Entries :=
    match entries.lookup key with
    | none => some (entries ++ [(key, .tables [] [])])
    | some (.tables finished inner) =>
      some (replace key (.tables (finished ++ [.table (entryValues inner)]) []) entries)
    | some _ => none
  update? false start path false entries

end Entries

end BackupConsole.Toml
