import BackupConsole.Proofs.Table.Diff

/-!
# Replaying a diff

Whoever shows only the UUIDs of the rows can follow a table by its diffs: drop what was removed,
then insert what came, from the front to the back. This puts every row that came in its final place
and fills the other places with the rows that stayed, in the order in which they stood before.
-/

set_option autoImplicit false

namespace BackupConsole

def insertAt? {α : Type} (l : List α) (i : Nat) (a : α) : Option (List α) :=
  if i ≤ l.length then some (l.insertIdx i a) else none

/-- The UUIDs shown after the changes of a diff, made one after the other. -/
def RowDiff.replay (diff : RowDiff) (shown : List String) : Option (List String) :=
  diff.inserted.foldlM (fun shown entry => insertAt? shown entry.1 entry.2)
    (shown.filter fun uuid => uuid ∉ diff.removed)

section

variable {α : Type} {marked : α → Bool}

end

namespace Table

variable {old new : List Row} (distinctOld : (old.map Row.uuid).Nodup)
  (distinctNew : (new.map Row.uuid).Nodup)
include distinctOld distinctNew

end Table

end BackupConsole
