import BackupConsole.Proofs.Table.Display
import BackupConsole.Proofs.Text.ByteOrder
import Mathlib.Data.List.Nodup
import Mathlib.Tactic.ByContra

set_option autoImplicit false

namespace BackupConsole

open Job Text

/-- No two rows show the same job, and every row stands out as its snapshot demands. -/
structure ProperRows (rows : List Row) : Prop where
  distinct : (rows.map Row.uuid).Nodup
  hinted : ∀ row ∈ rows, row.hint = row.snapshot.hint

theorem ProperRows.perm {rows other : List Row} (proper : ProperRows rows) (perm : other.Perm rows) :
    ProperRows other :=
  ⟨(perm.map Row.uuid).nodup_iff.mpr proper.distinct,
    fun row mem => proper.hinted row (perm.mem_iff.mp mem)⟩

namespace RowDiff.Exact

variable {old new : List Row} {diff : RowDiff}

end RowDiff.Exact

namespace Table

section

variable {rows : List Row} (nodup : (rows.map Row.uuid).Nodup)
include nodup

end

section

variable {old new : List Row} (distinctNew : (new.map Row.uuid).Nodup)
include distinctNew

end

end Table

end BackupConsole
