import BackupConsole.Roster
import BackupConsole.Table.SortKey

/-!
# The job table

The table shows the jobs of the roster, sorted by one column. It remembers the snapshot that each
row was shown with, so that the next look at the roster tells which rows are new, which ones
changed and which ones are gone. Equal rows keep the order in which they are given.
-/

set_option autoImplicit false

namespace BackupConsole

open Job

/-- One row of the table, with the snapshot it is shown with and how it stands out. -/
structure Row where
  handle : Handle
  snapshot : Snapshot
  hint : Hint
deriving DecidableEq, Repr

def Row.uuid (row : Row) : String := row.snapshot.uuid

def Roster.row (r : Roster) (h : Handle) : Row := ⟨h, r.read h, (r.read h).hint⟩

/-- What changed between two looks at the roster. Positions are those of the sorted table. -/
structure RowDiff where
  inserted : List (Nat × String) := []
  updated : List String := []
  removed : List String := []
deriving DecidableEq, Repr

def RowDiff.isEmpty (d : RowDiff) : Bool :=
  d.inserted.isEmpty && d.updated.isEmpty && d.removed.isEmpty

structure Table where
  sortKey : SortKey := .name
  rows : List Row := []
deriving DecidableEq, Repr, Inhabited

namespace Table

def sortRows (key : SortKey) (rows : List Row) : List Row :=
  rows.mergeSort fun a b => key.le a.snapshot b.snapshot

/-- One row per UUID, the last one given. -/
def lastPerJob : List Row → List Row
  | [] => []
  | row :: rows =>
    if rows.any fun other => other.uuid == row.uuid then lastPerJob rows
    else row :: lastPerJob rows

/-- The changes that lead from `previous` to the rows from a position on. Each previous row is
matched once. -/
def diffFrom (previous : List Row) (position : Nat) : List Row → RowDiff
  | [] => { removed := (previous.map Row.uuid).mergeSort fun a b => (Ord.compare a b).isLE }
  | row :: rows =>
    match previous.find? fun old => old.uuid == row.uuid with
    | some old =>
      let rest := diffFrom (previous.filter fun old => old.uuid != row.uuid) (position + 1) rows
      if old.snapshot = row.snapshot ∧ old.handle = row.handle then rest
      else { rest with updated := row.uuid :: rest.updated }
    | none =>
      let rest := diffFrom previous (position + 1) rows
      { rest with inserted := (position, row.uuid) :: rest.inserted }

def setSort (t : Table) (key : SortKey) : Table :=
  { sortKey := key, rows := sortRows key t.rows }

def rowsOf (roster : Roster) (handles : List Handle) : List Row := handles.map roster.row

def reconcile (t : Table) (roster : Roster) (handles : List Handle) : RowDiff × Table :=
  let rows := sortRows t.sortKey (rowsOf roster handles)
  (diffFrom (lastPerJob t.rows) 0 rows, { t with rows })

def jobs (t : Table) : List Snapshot := t.rows.map Row.snapshot

theorem rows_setSort_perm (t : Table) (key : SortKey) : (t.setSort key).rows.Perm t.rows :=
  List.mergeSort_perm _ _

theorem rows_reconcile_perm (t : Table) (roster : Roster) (handles : List Handle) :
    (t.reconcile roster handles).2.rows.Perm (rowsOf roster handles) :=
  List.mergeSort_perm _ _

end Table

end BackupConsole
