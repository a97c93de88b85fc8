import BackupConsole.Proofs.Console.Agreement
import BackupConsole.Proofs.Console.Invariant
import BackupConsole.Proofs.Polling.Exchange

/-!
# Statuses that are not announced

The status of a job is stored as it is told, but the table looks at the roster only when a list of
jobs or the progress of a job is announced. Over every run of operations, whatever the server answers,
the table that has taken all announcements differs from the roster at most in jobs whose status has
been told since then.
-/

set_option autoImplicit false

namespace BackupConsole

open Job Wire Polling Step

/-- The last status of the job `uuid` told since a list of jobs or the progress of a job was
delivered. -/
def unannounced? (heard : Transcript) (uuid : String) : Option Snapshot :=
  heard.foldl
    (fun last exchange =>
      if announces exchange then none
      else ((statusIn? exchange).filter fun job => job.uuid = uuid).or last)
    none

theorem unannounced?_concat (heard : Transcript) (exchange : Call × Answer) (uuid : String) :
    unannounced? (heard ++ [exchange]) uuid =
      if announces exchange then none
      else ((statusIn? exchange).filter fun job => job.uuid = uuid).or (unannounced? heard uuid) :=
  List.foldl_concat ..

theorem unannounced?_quiet {exchange : Call × Answer} (quiet : announces exchange ≠ true)
    (status : statusIn? exchange = none) (heard : Transcript) (uuid : String) :
    unannounced? (heard ++ [exchange]) uuid = unannounced? heard uuid := by
  rw [unannounced?_concat, if_neg quiet, status]
  rfl

theorem unannounced?_status {exchange : Call × Answer} {job : Snapshot}
    (quiet : announces exchange ≠ true) (status : statusIn? exchange = some job)
    (heard : Transcript) (uuid : String) :
    unannounced? (heard ++ [exchange]) uuid =
      if job.uuid = uuid then some job else unannounced? heard uuid := by
  rw [unannounced?_concat, if_neg quiet, status]
  by_cases own : job.uuid = uuid
  · simp [own, Option.filter]
  · simp [own, Option.filter]

/-- The roster shows the last status told of every job. -/
def Roster.Recent (r : Roster) (heard : Transcript) : Prop :=
  ∀ h ∈ r.handles, ∀ job, unannounced? heard (r.read h).uuid = some job → r.read h = job

theorem Roster.Recent.update {r : Roster} (consistent : r.Consistent) {heard later : Transcript}
    (recent : r.Recent heard) {job : Snapshot}
    (last : ∀ uuid, unannounced? later uuid =
      if job.uuid = uuid then some job else unannounced? heard uuid) :
    (r.update job).Recent later := by
  intro h mem told
  rw [handles_update] at mem
  rw [consistent.read_update, last]
  by_cases own : job.uuid = (r.read h).uuid
  · have found : r.get? job.uuid = some h := consistent.get?_eq_some_iff.mpr ⟨mem, own.symm⟩
    rw [if_pos found, if_pos rfl]
    exact Option.some.inj
  · have untouched : r.get? job.uuid ≠ some h := fun found =>
      own (consistent.get?_eq_some_iff.mp found).2.symm
    rw [if_neg untouched, if_neg own]
    exact recent h mem told

/-- The rows are those of the roster, and each row shows its job as it is, but for jobs with a status
that is not announced. -/
structure Table.Shows (t : Table) (r : Roster) (heard : Transcript) : Prop where
  lists : t.Lists r
  hints : ∀ row ∈ t.rows, row.hint = row.snapshot.hint
  current : ∀ row ∈ t.rows, unannounced? heard row.uuid = none → row = r.row row.handle

namespace Table

theorem shows_reread (t : Table) (r : Roster) (heard : Transcript) : (t.reread r).Shows r heard := by
  have rows : ∀ row ∈ (t.reread r).rows, ∃ h, r.row h = row := by
    intro row mem
    obtain ⟨h, _, same⟩ := List.mem_map.mp ((rows_reconcile_perm t r r.handles).mem_iff.mp mem)
    exact ⟨h, same⟩
  refine ⟨Console.lists_reread t r, ?_, ?_⟩
  · intro row mem
    obtain ⟨h, rfl⟩ := rows row mem
    rfl
  · intro row mem _
    obtain ⟨h, rfl⟩ := rows row mem
    rfl

namespace Shows

variable {t : Table} {r : Roster} {heard : Transcript} (shows : t.Shows r heard)
include shows

theorem setSort (key : SortKey) : (t.setSort key).Shows r heard := by
  have perm := t.rows_setSort_perm key
  refine ⟨(perm.map _).trans shows.lists, ?_, ?_⟩
  · exact fun row mem => shows.hints row (perm.mem_iff.mp mem)
  · exact fun row mem => shows.current row (perm.mem_iff.mp mem)

theorem listed {row : Row} (mem : row ∈ t.rows) :
    row.handle ∈ r.handles ∧ (r.read row.handle).uuid = row.uuid := by
  have pair : (row.handle, row.uuid) ∈ r.handles.map fun h => (h, (r.read h).uuid) :=
    shows.lists.mem_iff.mp (List.mem_map.mpr ⟨row, mem, rfl⟩)
  obtain ⟨h, mem, same⟩ := List.mem_map.mp pair
  obtain ⟨rfl, uuid⟩ := Prod.mk.inj same
  exact ⟨mem, uuid⟩

theorem update (consistent : r.Consistent) {later : Transcript} {job : Snapshot}
    (last : ∀ uuid, unannounced? later uuid =
      if job.uuid = uuid then some job else unannounced? heard uuid) :
    t.Shows (r.update job) later := by
  refine ⟨Console.lists_update consistent shows.lists job, shows.hints, ?_⟩
  intro row mem none
  rw [last] at none
  split at none
  · cases none
  · rename_i other
    have untouched : r.get? job.uuid ≠ some row.handle := fun found =>
      other ((consistent.get?_eq_some_iff.mp found).2.symm.trans (shows.listed mem).2)
    rw [Roster.row, consistent.read_update, if_neg untouched]
    exact shows.current row mem none

theorem perm_rowsOf (current : ∀ row ∈ t.rows, row = r.row row.handle) :
    t.rows.Perm (rowsOf r r.handles) := by
  have handles : (t.rows.map Row.handle).Perm r.handles := by
    have pairs := shows.lists.map Prod.fst
    rw [List.map_map, List.map_map] at pairs
    exact pairs.trans (List.Perm.of_eq (List.map_id _))
  have rows : (t.rows.map Row.handle).map r.row = t.rows := by
    rw [List.map_map]
    conv_rhs => rw [← List.map_id t.rows]
    exact List.map_congr_left fun row mem => (current row mem).symm
  rw [← rows]
  exact handles.map r.row

end Shows

end Table

namespace Console

/-- After the calls and answers `heard`, the roster shows the last status of every job, and the table
shows the roster or waits for an announcement about jobs. -/
structure Trailing (heard : Transcript) (c : Console) : Prop where
  consistent : c.board.roster.Consistent
  recent : c.board.roster.Recent heard
  shown : c.poll.events.any Event.rereads = true ∨ c.table.Shows c.board.roster heard

theorem table_applyNext (c : Console) :
    c.applyNext.2.table =
      if c.poll.events.head?.any Event.rereads then c.table.reread c.board.roster else c.table := by
  unfold applyNext Poll.takeEvent
  cases c.poll.events with
  | nil => rfl
  | cons event rest =>
    dsimp only
    rw [table_apply]
    rfl

namespace Trailing

variable {heard : Transcript} {c : Console}

theorem new (settings : Settings) (key : SortKey) : Trailing [] (Console.new settings key) :=
  { consistent := Roster.consistent_of_handles_eq_nil rfl rfl
    recent := fun _ mem => absurd mem List.not_mem_nil
    shown := .inr
      { lists := List.Perm.refl []
        hints := fun _ mem => absurd mem List.not_mem_nil
        current := fun _ mem => absurd mem List.not_mem_nil } }

theorem congr (trailing : c.Trailing heard) {d : Console} (roster : d.board.roster = c.board.roster)
    (table : d.table = c.table) (events : d.poll.events = c.poll.events) : d.Trailing heard := by
  obtain ⟨consistent, recent, shown⟩ := trailing
  rw [← roster] at consistent recent shown
  rw [← table, ← events] at shown
  exact ⟨consistent, recent, shown⟩

theorem of_poll {q : Poll} {r : Roster} (roster : q.board.roster = r) (consistent : r.Consistent)
    (recent : r.Recent heard)
    (shown : q.events.any Event.rereads = true ∨ c.table.Shows r heard) :
    Trailing heard { c with poll := q } := by
  subst roster
  exact ⟨consistent, recent, shown⟩

/-- An answer that announces brings everything in line; any other one tells at most the status of
one job. -/
theorem answered {p q : Poll} {exchange : Call × Answer}
    (trailing : Trailing heard { c with poll := p }) (dealt : Dealt exchange p q) :
    Trailing (heard ++ [exchange]) { c with poll := q } := by
  obtain ⟨consistent, recent, shown⟩ := trailing
  obtain ⟨stored, news, events, told⟩ := dealt
  by_cases announced : announces exchange = true
  · refine of_poll stored (consistent_storedOn consistent exchange) ?_ (.inl ?_)
    · intro h _ job last
      rw [unannounced?_concat, if_pos announced] at last
      cases last
    · rw [events, List.any_append, told announced, Bool.or_true]
  · have waits (waiting : p.events.any Event.rereads = true) :
        q.events.any Event.rereads = true := by
      rw [events, List.any_append, waiting, Bool.true_or]
    rw [storedOn_of_quiet announced] at stored
    cases status : statusIn? exchange with
    | none =>
      have last := unannounced?_quiet announced status heard
      rw [status] at stored
      refine of_poll stored consistent ?_ (shown.imp waits fun shows => ?_)
      · intro h mem
        rw [last]
        exact recent h mem
      · exact ⟨shows.lists, shows.hints, fun row mem none => shows.current row mem (last _ ▸ none)⟩
    | some job =>
      have last := unannounced?_status announced status heard
      rw [status] at stored
      refine of_poll stored (consistent.update job) (recent.update consistent last) ?_
      exact shown.imp waits fun shows => shows.update consistent last

theorem pump (trailing : c.Trailing heard) :
    c.pump.2.Trailing heard ∧ c.pump.2.table.Shows c.pump.2.board.roster heard := by
  have shows : c.pump.2.table.Shows c.board.roster heard := by
    rw [c.table_pump]
    split
    · exact Table.shows_reread c.table c.board.roster heard
    · exact trailing.shown.resolve_left (by assumption)
  rw [← c.board_pump] at shows
  refine ⟨⟨?_, ?_, .inr shows⟩, shows⟩
  · rw [c.board_pump]
    exact trailing.consistent
  · rw [c.board_pump]
    exact trailing.recent

theorem applyNext (trailing : c.Trailing heard) : c.applyNext.2.Trailing heard := by
  have poll := c.poll_applyNext
  have roster : c.applyNext.2.board.roster = c.board.roster := by
    rw [board, poll]
    rfl
  refine ⟨?_, ?_, ?_⟩
  · rw [roster]
    exact trailing.consistent
  · rw [roster]
    exact trailing.recent
  · rw [roster, table_applyNext, poll]
    split
    · exact .inr (Table.shows_reread c.table c.board.roster heard)
    · rename_i silent
      -- An announcement about jobs that waits is not the one taken.
      refine trailing.shown.imp ?_ id
      intro waiting
      cases events : c.poll.events with
      | nil =>
        rw [events] at waiting
        cases waiting
      | cons event rest =>
        rw [events, List.any_cons] at waiting
        rw [events] at silent
        exact (Bool.or_eq_true_iff.mp waiting).resolve_left silent

theorem setSort (trailing : c.Trailing heard) (key : SortKey) : (c.setSort key).Trailing heard :=
  ⟨trailing.consistent, trailing.recent, trailing.shown.imp id fun shows => shows.setSort key⟩

theorem selecting (trailing : c.Trailing heard) (uuid : Option String) :
    (c.selecting uuid).Trailing heard :=
  trailing.congr (Board.roster_select _ uuid) rfl rfl

theorem perm_rowsOf_iff (trailing : c.Trailing heard) (shows : c.table.Shows c.board.roster heard) :
    c.table.rows.Perm (Table.rowsOf c.board.roster c.board.roster.handles) ↔
      ∀ row ∈ c.table.rows, ∀ job, unannounced? heard row.uuid = some job → row.snapshot = job := by
  constructor
  · intro perm row mem job told
    obtain ⟨h, listed, rfl⟩ := List.mem_map.mp (perm.mem_iff.mp mem)
    exact trailing.recent h listed job told
  · intro shown
    refine shows.perm_rowsOf fun row mem => ?_
    cases last : unannounced? heard row.uuid with
    | none => exact shows.current row mem last
    | some job =>
      obtain ⟨listed, uuid⟩ := shows.listed mem
      have read : c.board.roster.read row.handle = row.snapshot := by
        rw [trailing.recent row.handle listed job (uuid ▸ last), shown row mem job last]
      rw [Roster.row, read, ← shows.hints row mem]

end Trailing

/-! ## Operations -/

theorem Trailing.freed {heard : Transcript} {c : Console} {p : Poll} (busy : List Kind)
    (trailing : Trailing heard { c with poll := p }) :
    Trailing heard { c with poll := { p with busy } } :=
  trailing.congr rfl rfl rfl

theorem holds_polling_cycle (withJobList : Bool) :
    (polling (Polling.cycle withJobList)).Holds Trailing :=
  holds_polling fun _ => holds_cycle Trailing.freed Trailing.answered withJobList

theorem holds_polling_fetch : (polling fetch).Holds Trailing :=
  holds_polling fun _ =>
    (holds_refresh Trailing.freed Trailing.answered .schedules).bind fun _ =>
      (holds_refresh Trailing.freed Trailing.answered .jobInfo).bind fun _ => Script.holds_pure ()

theorem held_trailing : Held Trailing where
  cycle := holds_polling_cycle
  carryOut := fun order =>
    holds_polling fun _ => Polling.holds_carryOut Trailing.freed Trailing.answered order
  pump := fun trailing => trailing.pump.1
  applyNext := fun trailing => trailing.applyNext
  setSort := fun key trailing => trailing.setSort key
  aside := fun board table events trailing =>
    trailing.congr (congrArg Board.roster board) table events

theorem holds_select (uuid : Option String) : (Console.select uuid).Holds Trailing := by
  have settles : settled.Holds Trailing := fun _ _ trailing => trailing.pump.1
  intro heard c trailing
  have chosen := trailing.selecting uuid
  rw [select_apply]
  split
  · exact trailing
  split
  · exact (holds_polling_fetch heard _ chosen).bind fun _ => settles
  · exact settles heard _ chosen

end Console

namespace Operation

open Console

/-- The console after an operation that a server has answered, and all that has been asked and
answered so far. -/
def hear (server : Responder) (now : Console × Transcript) (op : Operation) : Console × Transcript :=
  ((op.script now.1).recorded server now.2).2

def hearAll (settings : Settings) (key : SortKey) (server : Responder) (operations : List Operation) :
    Console × Transcript :=
  operations.foldl (hear server) (Console.new settings key, [])

theorem trailing_hearAll (settings : Settings) (key : SortKey) (server : Responder)
    (operations : List Operation) :
    let now := hearAll settings key server operations
    now.1.Trailing now.2 := by
  have holds (op : Operation) : op.script.Holds Trailing :=
    held_trailing.script fun uuid _ => holds_select uuid
  suffices ∀ now : Console × Transcript, now.1.Trailing now.2 →
      (operations.foldl (hear server) now).1.Trailing (operations.foldl (hear server) now).2 from
    this _ (Trailing.new settings key)
  induction operations with
  | nil => exact fun _ trailing => trailing
  | cons op rest ih =>
    exact fun now trailing => ih _ ((holds op now.2 now.1 trailing).recorded server)

/-- In every run of operations, whatever the server answers, the table that has taken all
announcements has exactly the jobs of the roster, each under its handle, and shows them as they are
unless their status has been told since a list of jobs or the progress of a job was last delivered.
It agrees with the roster exactly if it shows those statuses too. -/
theorem rows_agree_unless_unannounced (settings : Settings) (key : SortKey) (server : Responder)
    (operations : List Operation) :
    let now := hearAll settings key server operations
    let c := now.1.pump.2
    c.table.Lists c.board.roster ∧
      (∀ row ∈ c.table.rows, unannounced? now.2 row.uuid = none →
        row = c.board.roster.row row.handle) ∧
      (c.table.rows.Perm (Table.rowsOf c.board.roster c.board.roster.handles) ↔
        ∀ row ∈ c.table.rows, ∀ job, unannounced? now.2 row.uuid = some job → row.snapshot = job) := by
  intro now c
  obtain ⟨trailing, shows⟩ := (trailing_hearAll settings key server operations).pump
  exact ⟨shows.lists, shows.current, trailing.perm_rowsOf_iff shows⟩

/-- The job a is listed as alpha, and its status tells that it is zulu; its progress is not
delivered. -/
def renamed : Responder := fun _ call =>
  if call.request.name = "JOB_LIST" then
    { rows := [.ofPairs [("jobUUID", "a"), ("name", "alpha")]] }
  else if call.request.name = "JOB_STATUS" then
    { rows := [.ofPairs [("jobUUID", "a"), ("name", "zulu")]] }
  else if call.request.name = "JOB_INFO" then .failed (.connection "reset by peer")
  else { rows := [.ofPairs [("status", "RUNNING")]] }

/-- The choice of a job whose progress is not delivered leaves the table behind the roster, with
nothing to announce that. -/
theorem status_not_announced :
    let c := (hearAll {} .name renamed [.refresh, .select (some "a")]).1
    c.poll.events = [] ∧ c.pump.2.table = c.table ∧
      c.table.rows.map (fun row => row.snapshot.name) = ["alpha"] ∧
      c.board.roster.jobs.map Snapshot.name = ["zulu"] ∧
      ¬c.table.rows.Perm (Table.rowsOf c.board.roster c.board.roster.handles) := by
  decide +kernel

end Operation

end BackupConsole
