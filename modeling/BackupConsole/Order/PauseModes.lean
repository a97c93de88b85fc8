set_option autoImplicit false

namespace BackupConsole

structure PauseModes where
  create : Bool := false
  storage : Bool := false
  restore : Bool := false
  indexUpdate : Bool := false
  indexMaintenance : Bool := false
deriving DecidableEq, Repr, Inhabited

namespace PauseModes

def all : PauseModes := ⟨true, true, true, true, true⟩

def names (m : PauseModes) : List String :=
  (if m.create then ["CREATE"] else []) ++ (if m.storage then ["STORAGE"] else []) ++
    (if m.restore then ["RESTORE"] else []) ++ (if m.indexUpdate then ["INDEX_UPDATE"] else []) ++
    (if m.indexMaintenance then ["INDEX_MAINTENANCE"] else [])

def mask (m : PauseModes) : String := ",".intercalate m.names

def isEmpty (m : PauseModes) : Bool := m.names.isEmpty

theorem isEmpty_iff (m : PauseModes) : m.isEmpty = true ↔ m = {} := by
  obtain ⟨a, b, c, d, e⟩ := m
  revert a b c d e
  decide

end PauseModes

end BackupConsole
