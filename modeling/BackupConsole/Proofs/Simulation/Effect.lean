import BackupConsole.Proofs.Console.Requests
import BackupConsole.Proofs.Order.CarryOut
import BackupConsole.Proofs.Simulation.Tidy

set_option autoImplicit false

namespace BackupConsole.Simulation

open Job Wire Polling Step

/-! ## A server and what it has been asked -/

/-- The server after these calls. Call number `k` is answered at the moment `clock k`. -/
def Server.replay (clock : Nat → Int64) (s : Server) (heard : Transcript) : Server :=
  heard.zipIdx.foldl (fun s made => (s.answer (clock made.2) made.1.1.request).2) s

/-- The server answers as what it has become by all it has been asked. -/
def Server.responder (clock : Nat → Int64) (s : Server) : Responder := fun heard call =>
  ((s.replay clock heard).answer (clock heard.length) call.request).1

def Server.serve (clock : Nat → Int64) (call : Call) (world : Nat × Server) :
    Answer × Nat × Server :=
  let (answer, s) := world.2.answer (clock world.1) call.request
  (answer, world.1 + 1, s)

/-- What the row of a job shows after these calls. -/
inductive Server.Shows (clock : Nat → Int64) (s : Server) (heard : Transcript) (row : Snapshot) :
    Prop where
  | current (job : SimJob) (found : (s.replay clock heard).findJob? row.uuid = some job)
      (same : row = job.snapshot)
  /-- The job has made one step since, at the call after `before`, and no other one. -/
  | behind (before : Transcript) (exchange : Call × Answer) (since : Transcript)
      (calls : heard = before ++ exchange :: since) (job : SimJob)
      (found : (s.replay clock before).findJob? row.uuid = some job) (active : job.isActive = true)
      (same : row = job.snapshot)
      (stays : ∀ more, more <+: since →
        (s.replay clock (before ++ exchange :: more)).findJob? row.uuid =
          some (job.advance (clock before.length)))

/-- The board shows the server as it is after these calls, but for one step of each job. -/
structure Server.Reflected (clock : Nat → Int64) (s : Server) (heard : Transcript) (b : Board) :
    Prop where
  runState : b.runState = (s.replay clock heard).runState
  listed : b.roster.jobs.map Snapshot.uuid =
    (s.replay clock heard).jobs.map fun job => job.snapshot.uuid
  rows : ∀ row ∈ b.roster.jobs, s.Shows clock heard row

section

variable {clock : Nat → Int64} {s : Server} {heard : Transcript}

theorem replay_concat (clock : Nat → Int64) (s : Server) (heard : Transcript)
    (exchange : Call × Answer) :
    s.replay clock (heard ++ [exchange]) =
      ((s.replay clock heard).answer (clock heard.length) exchange.1.request).2 := by
  rw [Server.replay, List.zipIdx_append, List.foldl_append, Nat.zero_add]
  rfl

/-- Scripts run against the responder as against the server itself, which is left as the replay of
all it has been asked. -/
theorem run_serve {σ α : Type} (step : Step σ α) (clock : Nat → Int64) (s : Server)
    (heard : Transcript) :
    step.run (Server.serve clock) (heard.length, s.replay clock heard) =
      ((step.recorded (s.responder clock) heard).1, (step.recorded (s.responder clock) heard).2.1,
        (step.recorded (s.responder clock) heard).2.2.length,
        s.replay clock (step.recorded (s.responder clock) heard).2.2) := by
  induction step generalizing heard with
  | done value state => rfl
  | ask call state resume ih =>
    have next := ih (s.responder clock heard call) state
      (heard ++ [(call, s.responder clock heard call)])
    rw [replay_concat, List.length_append] at next
    exact next

theorem tidy_replay (tidy : s.Tidy) (clock : Nat → Int64) (heard : Transcript) :
    (s.replay clock heard).Tidy := by
  induction heard using List.reverseRecOn with
  | nil => exact tidy
  | append_singleton heard exchange ih =>
    rw [replay_concat]
    exact ih.answer _ _

/-! ## What a call leaves of what is shown -/

def Server.Current (clock : Nat → Int64) (s : Server) (heard : Transcript) (row : Snapshot) : Prop :=
  ∃ job, (s.replay clock heard).findJob? row.uuid = some job ∧ row = job.snapshot

variable {row : Snapshot} {exchange : Call × Answer}

theorem Server.Shows.kept (shows : s.Shows clock heard row)
    (still : (s.replay clock (heard ++ [exchange])).findJob? row.uuid =
      (s.replay clock heard).findJob? row.uuid) : s.Shows clock (heard ++ [exchange]) row := by
  cases shows with
  | current job found same => exact .current job (still.trans found) same
  | behind before step since calls job found active same stays =>
    subst calls
    refine .behind before step (since ++ [exchange]) (List.append_assoc ..) job found active same ?_
    intro more start
    obtain rfl | start := List.prefix_concat_iff.mp start
    · have last := stays since (List.prefix_refl since)
      rw [List.append_assoc] at still
      exact still.trans last
    · exact stays more start

theorem Server.Current.advanced (current : s.Current clock heard row)
    (moved : (s.replay clock (heard ++ [exchange])).findJob? row.uuid =
      ((s.replay clock heard).findJob? row.uuid).map (SimJob.advance (clock heard.length))) :
    s.Shows clock (heard ++ [exchange]) row := by
  obtain ⟨job, found, same⟩ := current
  rw [found, Option.map_some] at moved
  cases active : job.isActive with
  | false =>
    rw [job.advance_of_not_active _ active] at moved
    exact .current job moved same
  | true =>
    refine .behind heard exchange [] rfl job found active same ?_
    intro more start
    rw [List.prefix_nil.mp start]
    exact moved

/-- The roster lists the jobs of the server. Every row shows its job, and those of the jobs in
`fresh` show it as it is now. -/
structure Server.Mirrored (clock : Nat → Int64) (s : Server) (heard : Transcript)
    (fresh : String → Prop) (r : Roster) : Prop where
  consistent : r.Consistent
  listed : r.jobs.map Snapshot.uuid = (s.replay clock heard).jobs.map fun job => job.snapshot.uuid
  rows : ∀ row ∈ r.jobs, s.Shows clock heard row
  fresh : ∀ row ∈ r.jobs, fresh row.uuid → s.Current clock heard row

variable {fresh : String → Prop} {r : Roster}

theorem Server.Mirrored.update (mirrored : s.Mirrored clock heard fresh r) {uuid : String}
    {job : SimJob} (found : (s.replay clock heard).findJob? uuid = some job) :
    s.Mirrored clock heard (fun other => other = uuid) (r.update job.snapshot) := by
  obtain rfl : job.snapshot.uuid = uuid := by simpa using List.find?_some found
  have consistent := mirrored.consistent
  refine ⟨consistent.update _, (consistent.uuids_jobs_update _).trans mirrored.listed, ?_, ?_⟩
  · intro row mem
    obtain rfl | ⟨listed, _⟩ := consistent.of_mem_jobs_update mem
    · exact .current job found rfl
    · exact mirrored.rows row listed
  · intro row mem same
    obtain rfl | ⟨_, other⟩ := consistent.of_mem_jobs_update mem
    · exact ⟨job, found, rfl⟩
    · exact absurd same other

variable (tidy : s.Tidy)

include tidy

theorem uuids_replay_concat (exchange : Call × Answer) :
    ((s.replay clock (heard ++ [exchange])).jobs.map fun job => job.snapshot.uuid) =
      (s.replay clock heard).jobs.map fun job => job.snapshot.uuid := by
  rw [replay_concat]
  exact ((tidy_replay tidy clock heard).retains_answer _ _).uuids

theorem Server.Mirrored.still (mirrored : s.Mirrored clock heard fresh r)
    (still : (s.replay clock (heard ++ [exchange])).findJob? = (s.replay clock heard).findJob?) :
    s.Mirrored clock (heard ++ [exchange]) fresh r := by
  refine ⟨mirrored.consistent, mirrored.listed.trans (uuids_replay_concat tidy exchange).symm, ?_, ?_⟩
  · exact fun row mem => (mirrored.rows row mem).kept (congrFun still row.uuid)
  · intro row mem inside
    obtain ⟨job, found, same⟩ := mirrored.fresh row mem inside
    exact ⟨job, (congrFun still row.uuid).trans found, same⟩

theorem Server.Mirrored.moved (mirrored : s.Mirrored clock heard fresh r)
    (moved : ∀ uuid,
      (s.replay clock (heard ++ [exchange])).findJob? uuid = (s.replay clock heard).findJob? uuid ∨
        fresh uuid ∧ (s.replay clock (heard ++ [exchange])).findJob? uuid =
          ((s.replay clock heard).findJob? uuid).map (SimJob.advance (clock heard.length))) :
    s.Mirrored clock (heard ++ [exchange]) (fun _ => False) r := by
  refine ⟨mirrored.consistent, mirrored.listed.trans (uuids_replay_concat tidy exchange).symm, ?_,
    fun _ _ impossible => impossible.elim⟩
  intro row mem
  obtain still | ⟨inside, step⟩ := moved row.uuid
  · exact (mirrored.rows row mem).kept still
  · exact (mirrored.fresh row mem inside).advanced step

theorem mirrored_jobList (consistent : r.Consistent) :
    s.Mirrored clock (heard ++ [(listCall, s.responder clock heard listCall)]) (fun _ => True)
      (relisted (s.responder clock heard listCall) r) := by
  have now := tidy_replay tidy clock heard
  have told : relisted (s.responder clock heard listCall) r =
      r.replace ((s.replay clock heard).jobs.map SimJob.snapshot) := now.relisted_list _ r
  have distinct : (((s.replay clock heard).jobs.map SimJob.snapshot).map Snapshot.uuid).Nodup := by
    rw [List.map_map]
    exact now.distinct
  have jobs := consistent.jobs_replace _ distinct
  have after : s.replay clock (heard ++ [(listCall, s.responder clock heard listCall)]) =
      (s.replay clock heard).logged listCall.request := by
    rw [replay_concat]
    exact congrArg Prod.snd (now.answer_list _)
  have current : ∀ row ∈ (s.replay clock heard).jobs.map SimJob.snapshot,
      s.Current clock (heard ++ [(listCall, s.responder clock heard listCall)]) row := by
    intro row mem
    obtain ⟨job, listed, rfl⟩ := List.mem_map.mp mem
    refine ⟨job, ?_, rfl⟩
    rw [after]
    exact now.findJob? listed
  rw [told]
  refine ⟨consistent.replace _, ?_, ?_, ?_⟩
  · rw [jobs, after, List.map_map]
    rfl
  · rw [jobs]
    intro row mem
    obtain ⟨job, found, same⟩ := current row mem
    exact .current job found same
  · rw [jobs]
    exact fun row mem _ => current row mem

theorem mirrored_runState (mirrored : s.Mirrored clock heard (fun _ => True) r) :
    s.Mirrored clock (heard ++ [(stateCall, s.responder clock heard stateCall)]) (fun _ => False)
      r := by
  have now := tidy_replay tidy clock heard
  refine mirrored.moved tidy fun uuid => ?_
  rw [replay_concat, (now.answer_state _).2]
  exact (Server.findJob?_status _ _ uuid).imp_right fun step => ⟨trivial, step⟩

theorem decoded_state (clock : Nat → Int64) (heard : Transcript) :
    Poll.decoded RunState.ofFields (s.responder clock heard stateCall) =
      .ok (s.replay clock (heard ++ [(stateCall, s.responder clock heard stateCall)])).runState := by
  rw [replay_concat]
  exact ((tidy_replay tidy clock heard).answer_state _).1

theorem replay_status (clock : Nat → Int64) (heard : Transcript) (uuid : String) :
    s.replay clock (heard ++ [(statusCall uuid, s.responder clock heard (statusCall uuid))]) =
      (s.replay clock heard).logged (statusCall uuid).request := by
  have now := tidy_replay tidy clock heard
  rw [replay_concat]
  cases found : (s.replay clock heard).findJob? uuid with
  | none => exact congrArg Prod.snd (now.answer_of_unknown _ found rfl (Server.reply_status _ _ uuid))
  | some job => exact (now.answer_status _ found).2

theorem runState_replay_detail (clock : Nat → Int64) (heard : Transcript) (uuid : String) :
    (s.replay clock
        (heard ++ [(detailCall uuid, s.responder clock heard (detailCall uuid))])).runState =
      (s.replay clock heard).runState := by
  rw [replay_concat]
  exact ((tidy_replay tidy clock heard).answer_detail _ uuid).1

theorem mirrored_status (mirrored : s.Mirrored clock heard fresh r) (uuid : String) :
    let status := s.responder clock heard (statusCall uuid)
    s.Mirrored clock (heard ++ [(statusCall uuid, status)])
      (fun other => (Poll.decoded Snapshot.ofFields status).isOk = true ∧ other = uuid)
      ((toldJob? uuid status).elim r r.update) := by
  intro status
  have now := tidy_replay tidy clock heard
  have same : (s.replay clock (heard ++ [(statusCall uuid, status)])).findJob? =
      (s.replay clock heard).findJob? := by
    rw [replay_status tidy]
    rfl
  have still := mirrored.still tidy same
  cases found : (s.replay clock heard).findJob? uuid with
  | none =>
    have fails : status = .failed ((Rejection.mk 10 uuid).line 0).toFailure :=
      congrArg Prod.fst (now.answer_of_unknown _ found rfl (Server.reply_status _ _ uuid))
    rw [fails] at still ⊢
    exact ⟨still.consistent, still.listed, still.rows, fun _ _ read => nomatch read.1⟩
  | some job =>
    have told : Poll.decoded Snapshot.ofFields status = .ok job.snapshot :=
      (now.answer_status (clock heard.length) found).1
    have own : job.snapshot.uuid = uuid := by simpa using List.find?_some found
    have updates : toldJob? uuid status = some job.snapshot := by
      rw [toldJob?, told]
      exact Option.filter_some_pos (decide_eq_true own)
    have updated := still.update ((congrFun same uuid).trans found)
    rw [updates]
    exact ⟨updated.consistent, updated.listed, updated.rows,
      fun row mem read => updated.fresh row mem read.2⟩

theorem mirrored_detail {uuid : String} (mirrored : s.Mirrored clock heard fresh r)
    (shown : fresh uuid) :
    s.Mirrored clock (heard ++ [(detailCall uuid, s.responder clock heard (detailCall uuid))])
      (fun _ => False) r := by
  obtain ⟨_, others, own⟩ := (tidy_replay tidy clock heard).answer_detail (clock heard.length) uuid
  refine mirrored.moved tidy fun other => ?_
  rw [replay_concat]
  by_cases same : other = uuid
  · subst same
    exact own.imp_right fun step => ⟨shown, step⟩
  · exact .inl (others other same)

end

/-! ## The refresh -/

section

variable {p : Poll} (heard : Transcript)

theorem recorded_jobInfo_of_none (server : Responder) (none : p.board.selected = none) :
    ((refresh .jobInfo p).recorded server heard).2 = (p, heard) := by
  have first : p.firstCall .jobInfo = .ended (.ok .skipped) := by rw [Poll.firstCall, none]
  rw [recorded, runWith_refresh, Poll.begin?, first]

variable {clock : Nat → Int64} {s : Server} (tidy : s.Tidy) (idle : p.busy = [])

include tidy idle

theorem reflected_jobInfo (mirrored : s.Mirrored clock heard (fun _ => False) p.board.roster)
    (state : p.board.runState = (s.replay clock heard).runState) :
    let ran := ((refresh .jobInfo p).recorded (s.responder clock) heard).2
    s.Reflected clock ran.2 ran.1.board := by
  intro ran
  cases selected : p.board.selected with
  | none =>
    have same : ran = (p, heard) := recorded_jobInfo_of_none heard (s.responder clock) selected
    rw [same]
    exact ⟨state, mirrored.listed, mirrored.rows⟩
  | some uuid =>
    obtain ⟨q, same, keeps, roster⟩ :=
      recorded_jobInfo_of_some (s.responder clock) heard idle selected
    have same : ran = _ := same
    have told := mirrored_status tidy mirrored uuid
    have logged := replay_status tidy clock heard uuid
    have state := keeps.trans (state.trans (congrArg Server.runState logged).symm)
    dsimp only at told
    rw [← roster] at told
    rw [same]
    split
    · rename_i read
      have last := mirrored_detail tidy told ⟨read, rfl⟩
      exact ⟨state.trans (runState_replay_detail tidy clock _ uuid).symm, last.listed, last.rows⟩
    · exact ⟨state, told.listed, told.rows⟩

theorem reflected_refreshAll (clock : Nat → Int64) (alive : p.terminated = false)
    (consistent : p.board.roster.Consistent) :
    let ran := ((refreshAll p).recorded (s.responder clock) heard).2
    s.Reflected clock ran.2 ran.1.board := by
  have refreshed := recorded_refreshAll (s.responder clock) heard idle alive
  have listed : s.Mirrored clock (heard ++ [(listCall, s.responder clock heard listCall)])
      (fun _ => True) (relisted (s.responder clock heard listCall) p.board.roster) :=
    mirrored_jobList tidy consistent
  have stated := mirrored_runState tidy listed
  have told := decoded_state tidy clock (heard ++ [(listCall, s.responder clock heard listCall)])
  dsimp only at refreshed
  generalize s.responder clock heard listCall = list at refreshed stated told
  generalize s.responder clock (heard ++ [(listCall, list)]) stateCall = state
    at refreshed stated told
  have goesOn : stop? p.settings p.failures state = none := by rw [stop?, told]
  have known : toldState state p.board.runState =
      (s.replay clock (heard ++ [(listCall, list)] ++ [(stateCall, state)])).runState := by
    rw [toldState, told]
  rw [goesOn] at refreshed
  rw [List.append_assoc] at stated known
  rw [refreshed]
  exact reflected_jobInfo _ tidy idle stated known

end

/-! ## Orders -/

theorem refreshed_of_carryOut {order : Order} {p q : Poll} {server : Responder} {effect : Effect}
    {heard : Transcript}
    (ran : (order.carryOut p).recorded server [] = (.ok effect, q, heard))
    (sent : effect ≠ .skipped) :
    ∃ before outcome, (refreshAll p).recorded server before = (outcome, q, heard) := by
  by_cases unsendable : ∃ result, order.Unsendable p.board result
  · obtain ⟨result, unsendable⟩ := unsendable
    rw [Order.carryOut_unsendable unsendable] at ran
    have same : result = .ok effect := congrArg Prod.fst ran
    subst same
    cases unsendable with
    | noMode => exact absurd rfl sent
  · obtain ⟨errands, _, planned, sends⟩ := Order.plan_of_sendable (not_exists.mp unsendable)
    have ends := recorded_carryOut planned sends.errands_ne_nil server []
    rw [ran] at ends
    cases ends with
    | accepted _ _ more refreshed =>
      obtain ⟨outcome, refreshes⟩ := refreshed.ran
      exact ⟨_, outcome, refreshes⟩

/-- After an order that has been carried out against a server that can be reached, the board shows
the run state and the list of jobs as they are on the server that is left, and every row shows its
job as it is or as it was before its last step. -/
theorem carryOut_visible (clock : Nat → Int64) {s : Server} (online : s.offline = false)
    (uninjected : s.injections = [])
    (distinct : (s.jobs.map fun job => job.snapshot.uuid).Nodup)
    (plain : ∀ job ∈ s.jobs, ∀ text ∈ texts job.snapshot, ∀ c ∈ text.toList,
      Text.isBlank c = true → c = ' ')
    (settings : Settings) (key : SortKey) (operations : List (Operation × Responses)) {c : Console}
    (reached : c = (Console.new settings key).performAll operations)
    (alive : c.poll.terminated = false) (idle : c.poll.busy = []) (order : Order)
    {effect : Effect} {d : Console} {heard : Transcript}
    (ran : (Console.carryOut order c).recorded (s.responder clock) [] = (.ok effect, d, heard))
    (sent : effect ≠ .skipped) :
    (Console.carryOut order c).run (Server.serve clock) (0, s) =
        (.ok effect, d, heard.length, s.replay clock heard) ∧
      s.Reflected clock heard d.board := by
  have left := run_serve (Console.carryOut order c) clock s []
  rw [ran] at left
  refine ⟨left, ?_⟩
  have tidy : s.Tidy := ⟨online, uninjected, distinct, fun job mem text listed =>
    survives_of_spaces (plain job mem text listed)⟩
  have consistent : c.poll.board.roster.Consistent := by
    rw [reached]
    exact Operation.consistent_performAll (Roster.consistent_of_handles_eq_nil rfl rfl) operations
  rw [Console.carryOut, Console.recorded_polling] at ran
  rcases carried : (order.carryOut c.poll).recorded (s.responder clock) [] with ⟨result, q, calls⟩
  rw [carried] at ran
  obtain ⟨rfl, rfl, rfl⟩ : result = .ok effect ∧ { c with poll := q } = d ∧ calls = heard := by
    simpa only [Prod.mk.injEq] using ran
  obtain ⟨before, outcome, refreshes⟩ := refreshed_of_carryOut carried sent
  have reflected := reflected_refreshAll before tidy idle clock alive consistent
  rw [refreshes] at reflected
  exact reflected

theorem carried_of_accepts {order : Order} {c : Console} {errands : List Errand}
    {effect : Effect} (planned : order.plan c.poll.board = .ok ⟨errands, effect⟩)
    (some : errands ≠ []) (server : Responder)
    (accepts : server.Accepts [] (errands.map Errand.call)) :
    ∃ d heard, (Console.carryOut order c).recorded server [] = (.ok effect, d, heard) := by
  have ends := recorded_carryOut planned some server []
  rw [Console.carryOut, Console.recorded_polling]
  exact ⟨_, _, Prod.ext (ends.ok_of_accepts accepts) rfl⟩

def busyServer : Server :=
  { jobs := [SimJob.new "a" "alpha" .running, SimJob.new "b" "beta two" .waiting] }

def waitingTold : Responses := fun _ call =>
  if call.request.name = "JOB_LIST" then
    let row := .ofPairs [("jobUUID", "b"), ("name", "beta two"), ("state", "waiting")]
    { answer := { rows := [row] } }
  else { answer := {} }

def waitingConsole : Console :=
  (Console.new {} .name).performAll [(.refresh, waitingTold), (.select (some "b"), waitingTold)]

theorem plain_busyServer : ∀ job ∈ busyServer.jobs, ∀ text ∈ texts job.snapshot,
    ∀ c ∈ text.toList, Text.isBlank c = true → c = ' ' := by
  have plain : (busyServer.jobs.all fun job => (texts job.snapshot).all fun text =>
      text.toList.all fun c => !Text.isBlank c || c == ' ') = true := by decide +kernel
  intro job mem text listed c within blank
  have all := List.all_eq_true.mp (List.all_eq_true.mp (List.all_eq_true.mp plain job mem) text listed)
    c within
  simpa [blank] using all

/-- The chosen job is started, with all calls at one moment. -/
theorem started_visible :
    ∃ d heard, (Console.carryOut (.start .normal false false) waitingConsole).recorded
        (busyServer.responder fun _ => 0) [] = (.ok .sent, d, heard) ∧
      (Console.carryOut (.start .normal false false) waitingConsole).run
          (Server.serve fun _ => 0) (0, busyServer) =
        (.ok .sent, d, heard.length, busyServer.replay (fun _ => 0) heard) ∧
      busyServer.Reflected (fun _ => 0) heard d.board := by
  have planned : (Order.start .normal false false).plan waitingConsole.poll.board =
      .ok { errands := [startErrand { uuid := "b", name := "beta two" } .normal false false] } := by
    decide +kernel
  obtain ⟨d, heard, ran⟩ := carried_of_accepts planned (List.cons_ne_nil _ _)
    (busyServer.responder fun _ => 0) (List.forall_mem_singleton.mpr rfl)
  exact ⟨d, heard, ran, carryOut_visible (fun _ => 0) rfl rfl (by decide) plain_busyServer {} .name
    _ rfl (by decide +kernel) (by decide +kernel) _ ran (by decide)⟩

end BackupConsole.Simulation
