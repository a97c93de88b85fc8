import BackupConsole.Proofs.Console.Operation
import BackupConsole.Proofs.Script.Invariant
import BackupConsole.Proofs.Table.Following

set_option autoImplicit false

namespace BackupConsole

open Job Wire Polling Step

def Table.Lists (t : Table) (r : Roster) : Prop :=
  (t.rows.map fun row => (row.handle, row.uuid)).Perm (r.handles.map fun h => (h, (r.read h).uuid))

namespace Console

structure Agreed (c : Console) : Prop where
  consistent : c.board.roster.Consistent
  listed : c.poll.events.any Event.rereads = true ∨ c.table.Lists c.board.roster

theorem lists_reread (t : Table) (r : Roster) : (t.reread r).Lists r := by
  have perm := Table.rows_reconcile_perm t r r.handles
  have pairs := perm.map fun row => (row.handle, row.uuid)
  rw [Table.rowsOf, List.map_map] at pairs
  exact pairs

theorem lists_update {t : Table} {r : Roster} (consistent : r.Consistent) (lists : t.Lists r)
    (job : Snapshot) : t.Lists (r.update job) := by
  have same : ∀ h ∈ r.handles, ((r.update job).read h).uuid = (r.read h).uuid := by
    intro h mem
    rw [consistent.read_update]
    split
    · rename_i found
      exact (consistent.get?_eq_some_iff.mp found).2.symm
    · rfl
  have pairs : (r.update job).handles.map (fun h => (h, ((r.update job).read h).uuid)) =
      r.handles.map fun h => (h, (r.read h).uuid) := by
    rw [Roster.handles_update]
    exact List.map_congr_left fun h mem => by rw [same h mem]
  rw [Table.Lists, pairs]
  exact lists

namespace Agreed

variable {c : Console}

theorem new (settings : Settings) (key : SortKey) : (Console.new settings key).Agreed :=
  ⟨Roster.consistent_of_handles_eq_nil rfl rfl, .inr (List.Perm.refl [])⟩

theorem strode (agreed : c.Agreed) {relists : Bool} {q : Poll} (strode : c.poll.Strode relists q) :
    Agreed { c with poll := q } := by
  obtain ⟨news, events, relisted⟩ := strode.told
  have waits (announced : c.poll.events.any Event.rereads = true) :
      q.events.any Event.rereads = true := by
    rw [events, List.any_append, announced, Bool.true_or]
  cases relisted with
  | kept same =>
    refine ⟨?_, ?_⟩
    · change q.board.roster.Consistent
      rw [same]
      exact agreed.consistent
    · change _ ∨ c.table.Lists q.board.roster
      rw [same]
      exact agreed.listed.imp waits id
  | updated job same =>
    refine ⟨?_, ?_⟩
    · change q.board.roster.Consistent
      rw [same]
      exact agreed.consistent.update job
    · change _ ∨ c.table.Lists q.board.roster
      rw [same]
      exact agreed.listed.imp waits fun lists => lists_update agreed.consistent lists job
  | replaced _ jobs same announced =>
    refine ⟨?_, .inl ?_⟩
    · change q.board.roster.Consistent
      rw [same]
      exact agreed.consistent.replace jobs
    · have fresh : news.any Event.rereads = true := List.any_eq_true.mpr ⟨.jobs, announced, rfl⟩
      change q.events.any Event.rereads = true
      rw [events, List.any_append, fresh, Bool.or_true]

theorem moved (agreed : c.Agreed) {q : Poll} (moved : c.poll.Moved q) :
    Agreed { c with poll := q } := by
  refine moved.kept (I := fun q => Agreed { c with poll := q }) ?_ agreed
  exact fun p stride agreed => agreed.strode (Poll.strode_stride p stride)

theorem selecting (agreed : c.Agreed) (uuid : Option String) : (c.selecting uuid).Agreed := by
  have same : (c.selecting uuid).board.roster = c.board.roster := Board.roster_select _ uuid
  refine ⟨?_, ?_⟩
  · rw [same]
    exact agreed.consistent
  · rw [same]
    exact agreed.listed

theorem pump (agreed : c.Agreed) : c.pump.2.Agreed ∧ c.pump.2.table.Lists c.board.roster := by
  have lists : c.pump.2.table.Lists c.board.roster := by
    rw [c.table_pump]
    split
    · exact lists_reread c.table c.board.roster
    · exact agreed.listed.resolve_left (by assumption)
  refine ⟨⟨?_, .inr ?_⟩, lists⟩
  · rw [c.board_pump]
    exact agreed.consistent
  · rw [c.board_pump]
    exact lists

theorem setSort (agreed : c.Agreed) (key : SortKey) : (c.setSort key).Agreed := by
  refine ⟨agreed.consistent, agreed.listed.imp id fun lists => ?_⟩
  exact ((c.table.rows_setSort_perm key).map _).trans lists

end Agreed

/-! ## Scripts of the console -/

section

variable {I : Console → Prop}
  (stays : ∀ {c : Console} {q : Poll}, I c → c.poll.Moved q → I { c with poll := q })
include stays

theorem keeps_polling {α : Type} {script : Script Poll α}
    (pieces : ∀ p, ∃ P, Pieces (Steady P) none p (script p)) : (polling script).Keeps I := by
  -- By induction on the steps, with any cue and console: polling goes on while they wait.
  have general (P : Call → Prop) (cue : Cue) (step : Step Poll α) (c : Console) (holds : I c)
      (pieces : Pieces (Steady P) cue c.poll step) :
      (step.within Console.poll (fun poll c => { c with poll }) c).Keeps I := by
    induction step generalizing cue c with
    | done value q => exact stays holds pieces.moved
    | ask call q resume ih =>
      refine ⟨stays holds pieces.1.moved, fun answer c holds => ?_⟩
      exact ih answer c.poll _ c holds (pieces.2 answer c.poll)
  intro c holds
  obtain ⟨P, steady⟩ := pieces c.poll
  exact general P none (script c.poll) c holds steady

theorem keeps_carryOut (order : Order) : (Console.carryOut order).Keeps I :=
  keeps_polling stays fun p => ⟨_, pieces_steady_carryOut order p⟩

end

theorem keeps_pumpAll : pumpAll.Keeps Agreed := Script.keeps_modify fun _ agreed => agreed.pump.1

theorem keeps_refresh : Console.refresh.Keeps Agreed := by
  have cycle : (polling refreshAll).Keeps Agreed :=
    keeps_polling (fun agreed => agreed.moved) fun p => ⟨_, pieces_steady_cycle true p⟩
  exact cycle.bind fun result => keeps_pumpAll.bind fun _ => Script.keeps_pure result

theorem keeps_settled : settled.Keeps Agreed := fun _ agreed => agreed.pump.1

theorem keeps_select (uuid : Option String) : (Console.select uuid).Keeps Agreed := by
  intro c agreed
  rw [select_apply]
  split
  · exact agreed
  split
  · have fetch : (polling fetch).Keeps Agreed :=
      keeps_polling (fun agreed => agreed.moved) fun p => ⟨_, pieces_steady_fetch p⟩
    exact (fetch _ (agreed.selecting uuid)).bind fun _ => keeps_settled
  · exact keeps_settled _ (agreed.selecting uuid)

end Console

end BackupConsole
