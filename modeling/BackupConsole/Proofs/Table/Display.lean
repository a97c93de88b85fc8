import BackupConsole.Proofs.Table.StableOrder
import BackupConsole.Table

/-!
# The display order over a history

A new look at the roster sorts the rows in the order given, but another sort key sorts the rows as
they are displayed. So an earlier key shows through wherever the current one leaves a tie: the
display order is the stable sort of the rows given last by all keys since then, the latest first.
-/

set_option autoImplicit false

namespace BackupConsole

open Job

theorem Compares.comap {α β : Type} {le : β → β → Bool} (compares : Compares le) (f : α → β) :
    Compares fun a b => le (f a) (f b) :=
  ⟨fun _ _ _ => compares.trans _ _ _, fun _ _ => compares.total _ _⟩

theorem compares_of_ord {β : Type} [Ord β] [Std.TransOrd β] :
    Compares fun a b : β => (Ord.compare a b).isLE := by
  refine ⟨fun _ _ _ => Std.TransCmp.isLE_trans, ?_⟩
  intro a b
  have swap : Ord.compare b a = (Ord.compare a b).swap := Std.OrientedCmp.eq_swap
  rw [swap]
  cases Ord.compare a b <;> rfl

theorem SortKey.compares (key : SortKey) : Compares key.le := by
  cases key with
  | name => exact compares_of_ord.comap Snapshot.name
  | state => exact compares_of_ord.comap fun job : Snapshot => job.state.rank
  | type => exact compares_of_ord.comap fun job : Snapshot => job.archiveType.rank
  | partSize => exact compares_of_ord.comap fun job : Snapshot => job.archivePartSize.toNat
  | compression => exact compares_of_ord.comap Snapshot.compressionText
  | crypt => exact compares_of_ord.comap Snapshot.cryptText
  | lastExecuted => exact compares_of_ord.comap fun job : Snapshot => job.lastExecutedAt.toInt
  | estimatedTime =>
    exact compares_of_ord.comap fun job : Snapshot => job.estimatedRestSeconds.toNat

namespace Table

def rowLe (key : SortKey) (a b : Row) : Bool := key.le a.snapshot b.snapshot

/-- How rows compare by several columns, each of them deciding what those before it leave tied. -/
def rowLeAll : List SortKey → Row → Row → Bool
  | [] => fun _ _ => true
  | key :: keys => decidedBy (rowLe key) (rowLeAll keys)

theorem compares_rowLe (key : SortKey) : Compares (rowLe key) := key.compares.comap Row.snapshot

theorem compares_rowLeAll (keys : List SortKey) : Compares (rowLeAll keys) := by
  induction keys with
  | nil => exact ⟨fun _ _ _ _ _ => rfl, fun _ _ => rfl⟩
  | cons key keys ih => exact (compares_rowLe key).decidedBy ih

theorem rowLeAll_singleton (key : SortKey) : rowLeAll [key] = rowLe key := by
  funext a b
  simp [rowLeAll, decidedBy]

theorem sortRows_eq (key : SortKey) (rows : List Row) :
    sortRows key rows = rows.mergeSort (rowLe key) := rfl

theorem sortRows_pair (key : SortKey) (x y : Row) :
    sortRows key [x, y] = if key.le x.snapshot y.snapshot then [x, y] else [y, x] := by
  simp only [sortRows, List.mergeSort]
  simp [List.merge]

inductive Event where
  | reconcile (roster : Roster) (handles : List Handle)
  | setSort (key : SortKey)

def after (t : Table) : Event → Table
  | .reconcile roster handles => (t.reconcile roster handles).2
  | .setSort key => t.setSort key

/-- A table, the rows given to it at its last look at a roster, and the keys that it was sorted by
since then and before the current one, the latest first. -/
structure Display where
  table : Table
  given : List Row := []
  earlier : List SortKey := []

namespace Display

def after (d : Display) (event : Event) : Display :=
  match event with
  | .reconcile roster handles =>
    { table := d.table.after event, given := rowsOf roster handles, earlier := [] }
  | .setSort _ =>
    { d with table := d.table.after event, earlier := d.table.sortKey :: d.earlier }

def run (first : SortKey) (events : List Event) : Display :=
  events.foldl after { table := { sortKey := first } }

def Ordered (d : Display) : Prop :=
  d.table.rows = d.given.mergeSort (rowLeAll (d.table.sortKey :: d.earlier))

theorem Ordered.after {d : Display} (ordered : d.Ordered) (event : Event) :
    (d.after event).Ordered := by
  cases event with
  | reconcile roster handles =>
    unfold Ordered
    rw [Display.after, rowLeAll_singleton]
    rfl
  | setSort key =>
    change sortRows key d.table.rows = d.given.mergeSort _
    rw [ordered, sortRows_eq]
    exact mergeSort_mergeSort (compares_rowLe key) (compares_rowLeAll _) d.given

theorem ordered_run (first : SortKey) (events : List Event) : (run first events).Ordered := by
  suffices ∀ d : Display, d.Ordered → (events.foldl Display.after d).Ordered by
    apply this
    simp [Ordered]
  induction events with
  | nil => exact fun _ ordered => ordered
  | cons event events ih => exact fun d ordered => ih _ (ordered.after event)

theorem table_run (first : SortKey) (events : List Event) :
    (run first events).table = events.foldl Table.after { sortKey := first } := by
  suffices ∀ d : Display, (events.foldl Display.after d).table = events.foldl Table.after d.table by
    exact this _
  induction events with
  | nil => exact fun _ => rfl
  | cons event events ih =>
    intro d
    rw [List.foldl_cons, List.foldl_cons, ih]
    cases event <;> rfl

theorem Ordered.rows_perm {d : Display} (ordered : d.Ordered) : d.table.rows.Perm d.given := by
  rw [ordered]
  exact List.mergeSort_perm _ _

theorem Ordered.pairwise {d : Display} (ordered : d.Ordered) :
    d.table.rows.Pairwise fun a b => rowLe d.table.sortKey a b := by
  have sorted := stableSorted_mergeSort (compares_rowLeAll (d.table.sortKey :: d.earlier)) d.given
  rw [ordered]
  refine sorted.ordered.imp ?_
  intro a b le
  rw [rowLeAll, decidedBy, Bool.and_eq_true] at le
  exact le.1

/-- Rows that the current key leaves tied were given in the order of the keys before it. -/
def TiesAsGiven (d : Display) : Prop :=
  d.given.Pairwise fun a b => tied (rowLe d.table.sortKey) a b → rowLeAll d.earlier a b

instance (d : Display) : Decidable d.TiesAsGiven := inferInstanceAs (Decidable (List.Pairwise _ _))

theorem Ordered.rows_eq_iff {d : Display} (ordered : d.Ordered) :
    d.table.rows = sortRows d.table.sortKey d.given ↔ d.TiesAsGiven := by
  rw [ordered, sortRows_eq, eq_comm]
  exact mergeSort_eq_mergeSort_decidedBy_iff (compares_rowLe _) (compares_rowLeAll _) d.given

/-- Over every history of looks at a roster and sort keys the rows are the ones given last, sorted by
the current key and with ties broken by the keys before it; they stand in the order given exactly if
those keys agree with it, and only then an unchanged roster moves no row. -/
theorem run_keeps_given_order_iff (first : SortKey) (events : List Event) :
    let d := run first events
    d.table = events.foldl Table.after { sortKey := first } ∧
      d.table.rows.Perm d.given ∧
      (d.table.rows.Pairwise fun a b => d.table.sortKey.le a.snapshot b.snapshot) ∧
      d.table.rows = d.given.mergeSort (rowLeAll (d.table.sortKey :: d.earlier)) ∧
      (d.table.rows = sortRows d.table.sortKey d.given ↔ d.TiesAsGiven) ∧
      ∀ roster handles, rowsOf roster handles = d.given →
        ((d.table.reconcile roster handles).2 = d.table ↔ d.TiesAsGiven) := by
  intro d
  have ordered : d.Ordered := ordered_run first events
  refine ⟨table_run first events, ordered.rows_perm, ordered.pairwise, ordered,
    ordered.rows_eq_iff, ?_⟩
  intro roster handles same
  rw [← ordered.rows_eq_iff, ← same]
  constructor
  · intro kept
    exact (congrArg Table.rows kept).symm
  · intro rows
    change { d.table with rows := sortRows d.table.sortKey (rowsOf roster handles) } = d.table
    rw [← rows]

def sameSized : Roster :=
  Roster.replace {} [{ uuid := "a", name := "zulu" }, { uuid := "b", name := "alpha" }]

/-- Sorted by name and then by part size, two jobs of the same part size stand in the order of their
names and not as the server lists them, until the next look at the same roster swaps them. -/
theorem earlier_key_breaks_tie :
    let d := run .name [.reconcile sameSized sameSized.handles, .setSort .partSize]
    d.table.rows ≠ sortRows d.table.sortKey d.given ∧
      (d.table.reconcile sameSized sameSized.handles).2 ≠ d.table := by
  intro d
  have untied : ¬ d.TiesAsGiven := by decide
  have moved : d.table.rows ≠ sortRows d.table.sortKey d.given := by
    rw [Ne, (ordered_run .name _).rows_eq_iff]
    exact untied
  refine ⟨moved, ?_⟩
  intro kept
  exact moved (congrArg Table.rows kept).symm

end Display

end Table

end BackupConsole
