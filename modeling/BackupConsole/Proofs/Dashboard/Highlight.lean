import BackupConsole.Proofs.Dashboard.Session

/-!
# The highlighted row

Syncing puts the cursor on the row of the selected job. If that job has no row, the job of the row
under the cursor is selected instead, and its status is fetched; then the rows may be sorted anew
while the cursor stays. Unless a new list of jobs comes meanwhile, the next sync puts it right.
-/

set_option autoImplicit false

namespace BackupConsole

open Job Wire Polling Step

/-! ## What a fetch does to the jobs -/

namespace Polling

namespace Poll

def Updated (p q : Poll) : Prop :=
  ∃ jobs : List Snapshot, q.board.roster = jobs.foldl Roster.update p.board.roster

namespace Updated

variable {p q r : Poll}

theorem of_eq (same : q.board.roster = p.board.roster) : Updated p q := ⟨[], same⟩

theorem trans (first : Updated p q) (second : Updated q r) : Updated p r := by
  obtain ⟨jobs, same⟩ := first
  obtain ⟨more, same'⟩ := second
  exact ⟨jobs ++ more, by rw [List.foldl_append, ← same, same']⟩

end Updated

theorem Strode.updated {p q : Poll} (strode : Strode false p q) : p.Updated q := by
  obtain ⟨news, _, relisted⟩ := strode.told
  cases relisted with
  | kept same => exact .of_eq same
  | updated job same => exact ⟨[job], same⟩
  | replaced list => cases list

theorem updated_stride (p : Poll) (stride : Stride) (keeps : stride.relists = false) :
    p.Updated (p.stride stride) := by
  have strode := strode_stride p stride
  rw [keeps] at strode
  exact strode.updated

theorem updated_strides (p : Poll) (strides : List Stride)
    (keep : ∀ stride ∈ strides, stride.relists = false) : p.Updated (p.strides strides) := by
  induction strides generalizing p with
  | nil => exact .of_eq rfl
  | cons stride strides ih =>
    obtain ⟨keeps, rest⟩ := List.forall_mem_cons.mp keep
    exact (updated_stride p stride keeps).trans (ih _ rest)

end Poll

theorem pieces_updated_refresh {kind : Kind} (other : kind ≠ .jobList) (p : Poll) :
    Pieces (fun _ p step => p.Updated step.state) none p (refresh kind p) := by
  apply pieces_refresh
  · exact fun _ => .of_eq rfl
  · intro p flight first free
    rw [land_apply]
    exact .of_eq rfl
  · intro p flight answer own
    rw [state_landed]
    apply p.updated_stride (.receive flight answer)
    cases flight with
    | jobList => exact absurd own.symm other
    | runState | jobStatus _ | schedules _ => rfl
  · exact fun uuid answer _ => Poll.updated_stride _ (.receiveDetail uuid answer) rfl

end Polling

/-- A server during whose calls polling in the background receives no list of jobs. -/
def Responses.WithoutLists (server : Responses) : Prop :=
  ∀ sent call, ∀ stride ∈ (server sent call).meanwhile, stride.relists = false

namespace Console

theorem pieces_updated_fetch (p : Poll) :
    Pieces (fun _ p step => p.Updated step.state) none p (fetch p) := by
  refine (pieces_updated_refresh (by decide) p).join id Poll.Updated.trans fun _ p => ?_
  exact (pieces_updated_refresh (by decide) p).join id Poll.Updated.trans fun _ p => .of_eq rfl

theorem updated_fetched {server : Responses} (without : server.WithoutLists) (c : Console) :
    c.poll.Updated (fetched server c []).1.poll :=
  Pieces.runWith (T := Poll.Updated) Poll.Updated.trans
    (fun call sent p => p.updated_strides _ (without sent call)) (pieces_updated_fetch c.poll) []

theorem lists_updated {t : Table} {p q : Poll} (updated : p.Updated q)
    (consistent : p.board.roster.Consistent) (lists : t.Lists p.board.roster) :
    t.Lists q.board.roster := by
  obtain ⟨jobs, same⟩ := updated
  rw [same]
  clear same
  -- By induction on the updates, from any roster.
  generalize p.board.roster = r at consistent lists
  induction jobs generalizing r with
  | nil => exact lists
  | cons job jobs ih =>
    exact ih (r.update job) (consistent.update job) (lists_update consistent lists job)

theorem uuids_fetched {c : Console} (agreed : c.Agreed) (lists : c.table.Lists c.board.roster)
    {server : Responses} (without : server.WithoutLists) :
    ((fetched server c []).1.pump.2.table.rows.map Row.uuid).Perm (c.table.rows.map Row.uuid) := by
  -- Before and after the fetch the table has the jobs of the roster that the fetch leaves.
  have moved := moved_run (pieces_steady_fetch c.poll) server []
  have now : (fetched server c []).1.pump.2.table.Lists (fetched server c []).1.board.roster :=
    (agreed.moved moved).pump.2
  have before : c.table.Lists (fetched server c []).1.board.roster :=
    lists_updated (updated_fetched without c) agreed.consistent lists
  have pairs := (now.trans before.symm).map Prod.snd
  rwa [List.map_map, List.map_map] at pairs

end Console

/-! ## Syncing -/

namespace Dashboard

namespace App

/-- The highlighted row is the one of the selected job; without rows no job is selected. -/
structure Highlighted (a : App) : Prop where
  own : a.rows ≠ [] → ∃ row, a.rows[a.cursor]? = some row ∧
    a.console.board.selected = some row.uuid
  none : a.rows = [] → a.console.board.selected = none

theorem highlighted_of_ownRow? {a : App} {index : Nat} (own : a.ownRow? = some index) :
    Highlighted { a with cursor := index } := by
  obtain ⟨uuid, selected, found⟩ := Option.bind_eq_some_iff.mp own
  obtain ⟨inside, same, _⟩ := List.findIdx?_eq_some_iff_getElem.mp found
  refine ⟨fun _ => ⟨a.rows[index], List.getElem?_eq_getElem inside, ?_⟩, fun empty => ?_⟩
  · exact selected.trans (congrArg some (eq_of_beq same).symm)
  · change a.rows = [] at empty
    simp [empty] at inside

theorem isSome_ownRow?_iff {a : App} {uuid : String}
    (selected : a.console.board.selected = some uuid) :
    a.ownRow?.isSome = true ↔ uuid ∈ a.rows.map Row.uuid := by
  rw [ownRow?, selected, Option.bind_some, List.findIdx?_isSome, List.any_eq_true, List.mem_map]
  simp only [beq_iff_eq]

theorem highlighted_iff {a : App} {uuid : String}
    (selected : a.console.board.selected = some uuid) :
    a.Highlighted ↔ (a.rows[a.cursor]?).map Row.uuid = some uuid := by
  constructor
  · intro highlighted
    by_cases empty : a.rows = []
    · rw [highlighted.none empty] at selected
      cases selected
    · obtain ⟨row, there, own⟩ := highlighted.own empty
      rw [there, ← selected, own]
      rfl
  · intro there
    obtain ⟨row, found, rfl⟩ := Option.map_eq_some_iff.mp there
    refine ⟨fun _ => ⟨row, found, selected⟩, fun empty => ?_⟩
    rw [empty] at found
    cases found

theorem rows_pumped {a : App} (quiet : a.console.poll.events = []) : a.pumped.rows = a.rows := by
  change a.console.pump.2.table.rows = _
  rw [a.console.table_pump, quiet]
  rfl

theorem rows_cleared {a : App} (quiet : a.console.poll.events = []) : a.cleared.rows = a.rows := by
  unfold cleared rows
  dsimp only
  split
  · rfl
  · rw [Console.table_pump]
    have same : (a.console.selecting none).poll.events = [] := quiet
    rw [same]
    rfl

theorem highlighted_sync {a : App} (shown : a.pumped.rows = [] ∨ a.pumped.ownRow?.isSome = true)
    (server : Responses) : (Turn.sync.play server a).1.Highlighted := by
  rw [play_sync]
  by_cases empty : a.pumped.rows = []
  · rw [if_pos (List.isEmpty_iff.mpr empty)]
    refine ⟨fun rows => ?_, fun _ => selected_cleared _⟩
    rw [rows_cleared a.console.events_pump] at rows
    exact absurd empty rows
  · rw [if_neg (by simpa using empty)]
    obtain ⟨index, own⟩ := Option.isSome_iff_exists.mp (shown.resolve_left empty)
    rw [own]
    exact highlighted_of_ownRow? own

section

variable {a : App} {row : Row} (there : a.rows[a.clamped.cursor]? = some row)
  (gone : a.ownRow? = none) (server : Responses)
include there gone

theorem events_chosen : (a.clamped.chosen server).1.console.poll.events = [] := by
  rw [chosen_of_gone there gone]
  exact Console.events_pump _

theorem table_chosen :
    (a.clamped.chosen server).1.console.table = a.console.table ∨
      (a.clamped.chosen server).1.console.table =
        a.console.table.reread (a.clamped.chosen server).1.console.board.roster := by
  rw [chosen_of_gone there gone]
  dsimp only
  rw [Console.table_pump, Console.board_pump]
  split
  · exact .inr rfl
  · exact .inl rfl

theorem uuids_chosen (agreed : a.Agreed) (lists : a.console.table.Lists a.console.board.roster)
    (without : server.WithoutLists) :
    ((a.clamped.chosen server).1.rows.map Row.uuid).Perm (a.rows.map Row.uuid) := by
  have same : (a.console.selecting (some row.uuid)).board.roster = a.console.board.roster :=
    Board.roster_select _ _
  rw [← same] at lists
  rw [chosen_of_gone there gone]
  exact Console.uuids_fetched (Console.Agreed.selecting agreed _) lists without

end

/-- What syncing has done when the selected job had no row in `a`. -/
structure Chosen (a b : App) (server : Responses) (row : Row) : Prop where
  there : a.rows[b.cursor]? = some row
  selected : b.console.board.selected = some row.uuid
  table : b.console.table = a.console.table ∨
    b.console.table = a.console.table.reread b.console.board.roster
  highlighted : b.Highlighted ↔ (b.rows[b.cursor]?).map Row.uuid = some row.uuid
  /-- Unless a list of jobs comes meanwhile, no row comes or goes, and the next sync follows. -/
  settles : server.WithoutLists → (b.rows.map Row.uuid).Perm (a.rows.map Row.uuid) ∧
    ∀ server, (Turn.sync.play server b).1.Highlighted ∧
      (Turn.sync.play server b).1.console.board.selected = some row.uuid

theorem chosen_sync {a : App} (agreed : a.Agreed) (rows : a.pumped.rows ≠ [])
    (gone : a.pumped.ownRow? = none) (server : Responses) :
    ∃ row, Chosen a.pumped (Turn.sync.play server a).1 server row := by
  have shown : a.pumped.rows.isEmpty = false := by simpa using rows
  obtain ⟨row, there⟩ := row_clamped shown
  obtain ⟨pumped, lists⟩ := Console.Agreed.pump agreed
  rw [← a.console.board_pump] at lists
  have selected := selected_chosen there gone server
  have quiet := events_chosen there gone server
  have table := table_chosen there gone server
  have uuids := uuids_chosen there gone server pumped lists
  have cursor : (a.pumped.clamped.chosen server).1.cursor = a.pumped.clamped.cursor := rfl
  rw [play_sync, shown, if_neg (by decide), gone]
  dsimp only
  -- What is known of the dashboard now is enough for the next sync, however it came about.
  generalize (a.pumped.clamped.chosen server).1 = b at selected quiet table uuids cursor
  rw [← cursor] at there
  refine ⟨row, there, selected, table, highlighted_iff selected, fun without =>
    ⟨uuids without, ?_⟩⟩
  have mem : row.uuid ∈ b.pumped.rows.map Row.uuid := by
    rw [rows_pumped quiet, (uuids without).mem_iff]
    exact List.mem_map_of_mem (List.mem_of_getElem? there)
  have own : b.pumped.ownRow?.isSome = true :=
    (isSome_ownRow?_iff ((selected_pumped b).trans selected)).mpr mem
  intro server
  exact ⟨highlighted_sync (.inr own) server,
    ((selected_sync_iff b server).mpr (.inl own)).trans selected⟩

end App

/-- In every session, syncing highlights the selected job if that has a row, and selects none if
there are no rows. Otherwise it selects the job of the row under the cursor, which is highlighted
exactly if its row is still in that place when its status has been fetched. -/
theorem sync_highlights_unless_moved (settings : Settings) (key : SortKey) (name : String)
    (turns : List (Turn × Responses)) (server : Responses) :
    let a := ({ console := Console.new settings key, server := name } : App).playAll turns
    let b := (Turn.sync.play server a).1
    (a.pumped.rows = [] ∨ a.pumped.ownRow?.isSome = true → b.Highlighted) ∧
      (a.pumped.rows ≠ [] → a.pumped.ownRow? = none → ∃ row, a.pumped.Chosen b server row) := by
  intro a b
  have agreed : a.Agreed := App.agreed_playAll (App.agreed_new settings key name) turns
  exact ⟨fun shown => App.highlighted_sync shown server,
    fun rows gone => App.chosen_sync agreed rows gone server⟩

/-- A server with two jobs, the first of which has had its name changed since they were listed. -/
def renamed : Responses := fun _ call =>
  { answer := { rows :=
      if call.request.name = "JOB_LIST" then
        [.ofPairs [("jobUUID", "a"), ("name", "alpha")], .ofPairs [("jobUUID", "b"), ("name", "beta")]]
      else [.ofPairs [("jobUUID", "a"), ("name", "zulu")]] } }

def listedRenamed : App :=
  ({ console := Console.new {} .name, server := "localhost" } : App).playAll
    [(.polling [.begin .jobList, .receive .jobList (renamed [] listCall).answer], renamed)]

def syncedRenamed : App := listedRenamed.playAll [(.sync, renamed)]

/-- The status of the first job moves its row behind the other one, and the cursor stays. -/
theorem cursor_left_behind :
    syncedRenamed.rows.map Row.uuid = ["b", "a"] ∧ syncedRenamed.cursor = 0 ∧
      syncedRenamed.console.board.selected = some "a" ∧ ¬ syncedRenamed.Highlighted := by
  let a := listedRenamed.pumped
  let alpha := a.console.board.roster.row ⟨0⟩
  let beta := a.console.board.roster.row ⟨1⟩
  have listed : a.rows = [alpha, beta] :=
    (Table.sortRows_pair .name alpha beta).trans (if_pos (by decide +kernel))
  have gone : a.ownRow? = none := rfl
  have start : a.clamped.cursor = 0 := Nat.zero_min _
  have there : a.rows[a.clamped.cursor]? = some alpha := by
    rw [listed, start]
    rfl
  have synced : syncedRenamed = { a.clamped with
      console := (Console.fetched renamed (a.console.selecting (some alpha.uuid)) []).1.pump.2 } := by
    change (Turn.sync.play renamed listedRenamed).1 = _
    rw [App.play_sync, gone, listed]
    exact congrArg Prod.fst (App.chosen_of_gone there gone renamed)
  have rows : syncedRenamed.rows.map Row.uuid = ["b", "a"] := by
    let fetched := (Console.fetched renamed (a.console.selecting (some alpha.uuid)) []).1
    let zulu := fetched.board.roster.row ⟨0⟩
    have told : fetched.poll.events.any Event.rereads = true := by decide +kernel
    have handles : fetched.board.roster.handles = [⟨0⟩, ⟨1⟩] := by decide +kernel
    have kept : fetched.board.roster.row ⟨1⟩ = beta := by decide +kernel
    have moved : ¬ SortKey.name.le zulu.snapshot beta.snapshot = true := by decide +kernel
    have sorted : syncedRenamed.rows = [beta, zulu] := by
      rw [synced, App.rows, Console.table_pump, if_pos told]
      change Table.sortRows .name (fetched.board.roster.handles.map fetched.board.roster.row) = _
      rw [handles, List.map_cons, List.map_singleton, kept, Table.sortRows_pair, if_neg moved]
    rw [sorted]
    decide +kernel
  have cursor : syncedRenamed.cursor = 0 := by rw [synced, start]
  have selected : syncedRenamed.console.board.selected = some "a" := by
    rw [synced]
    rfl
  refine ⟨rows, cursor, selected, ?_⟩
  rw [App.highlighted_iff selected, ← List.getElem?_map, rows, cursor]
  decide

end Dashboard

end BackupConsole
