import BackupConsole.Proofs.Polling.Company
import BackupConsole.Proofs.Roster.Consistency
import BackupConsole.Proofs.Script.Transcript

set_option autoImplicit false

namespace BackupConsole

open Text Job Wire Polling Step

namespace Order

/-- The order cannot be sent, and how it is answered. -/
inductive Unsendable (b : Board) : Order → Except Refusal Effect → Prop where
  | noToken (schedule : String) (broken : isToken schedule = false) :
      Unsendable b (.trigger schedule) (.error (.invalidArgument "schedule UUID" schedule))
  | noJob (order : Order) (about : order.aboutServer = false) (none : b.selectedJob? = none)
      (token : ∀ schedule, order = .trigger schedule → isToken schedule = true) :
      Unsendable b order (.error .noJobSelected)
  | noPassword (job : Snapshot) (selected : b.selectedJob? = some job)
      (ask : job.needsCryptPassword = true) (type : ArchiveType) (noStorage dryRun : Bool) :
      Unsendable b (.start type noStorage dryRun) (.error (.passwordRequired job.name))
  | noMode (seconds : UInt64) (modes : PauseModes) (empty : modes = {}) :
      Unsendable b (.pause seconds modes) (.ok .skipped)

def jobSteps : Order → List (String × JobAction)
  | .start _ _ _ => [("JOB_START", .start)]
  | .startWithPassword _ _ _ _ => [("CRYPT_PASSWORD", .setPassword), ("JOB_START", .start)]
  | .abort => [("JOB_ABORT", .abort)]
  | .reset => [("JOB_RESET", .reset)]
  | .loadVolume _ => [("VOLUME_LOAD", .loadVolume)]
  | .unloadVolume => [("VOLUME_UNLOAD", .unloadVolume)]
  | .trigger _ => [("SCHEDULE_TRIGGER", .trigger)]
  | .pause _ _ | .toggle => []

def serverStep? (state : RunState) : Order → Option (String × ServerAction × Effect)
  | .pause _ _ => some ("PAUSE", .pause, .sent)
  | .toggle =>
    match state with
    | .running => some ("SUSPEND", .suspend, .switched .suspended)
    | .paused _ | .suspended => some ("CONTINUE", .resume, .switched .running)
  | _ => none

/-- The commands that an order comes down to, and its effect once they are accepted. The job is the
selected one as the roster shows it. -/
inductive Sends (b : Board) (order : Order) : List Errand → Effect → Prop where
  | job (about : order.aboutServer = false) (job : Snapshot)
      (selected : b.selectedJob? = some job) (own : b.roster.Consistent → b.selected = some job.uuid)
      (errands : List Errand)
      (steps : errands.map (fun errand => (errand.request.name, errand.action)) =
        order.jobSteps.map fun step => (step.1, .job step.2 job.name))
      (addressed : ∀ errand ∈ errands, errand.request.get? "jobUUID" = some job.uuid) :
      Sends b order errands .sent
  | server (name : String) (action : ServerAction) (effect : Effect) (errand : Errand)
      (step : order.serverStep? b.runState = some (name, action, effect))
      (named : errand.request.name = name) (acts : errand.action = .server action)
      (unaddressed : errand.request.get? "jobUUID" = none) : Sends b order [errand] effect

theorem withSelected_of_some {b : Board} {job : Snapshot} (selected : b.selectedJob? = some job)
    (plan : Snapshot → Except Refusal Plan) : b.withSelected plan = plan job := by
  rw [Board.withSelected, selected]

theorem withSelected_of_none {b : Board} (none : b.selectedJob? = none)
    (plan : Snapshot → Except Refusal Plan) : b.withSelected plan = .error .noJobSelected := by
  rw [Board.withSelected, none]

theorem sends_jobPlan {b : Board} {order : Order} {job : Snapshot}
    (selected : b.selectedJob? = some job) (about : order.aboutServer = false) {name : String}
    {action : JobAction} (steps : order.jobSteps = [(name, action)])
    (args : List (String × String)) :
    order.Sends b (jobPlan action name job args).errands .sent := by
  refine .job about job selected (selected_of_selectedJob? selected) _ ?_ ?_
  · rw [steps]
    rfl
  · intro errand mem
    obtain rfl := List.mem_singleton.mp mem
    rfl

theorem carryOut_unsendable {order : Order} {p : Poll} {result : Except Refusal Effect}
    (unsendable : order.Unsendable p.board result) : order.carryOut p = .done result p := by
  rw [carryOut_apply]
  cases unsendable with
  | noToken schedule broken => rw [plan, broken]; rfl
  | noJob _ about none token =>
    have refused : order.plan p.board = .error .noJobSelected := by
      cases order with
      | trigger schedule =>
        rw [plan, if_pos (token schedule rfl)]
        exact withSelected_of_none none _
      | pause _ _ | toggle => cases about
      | start _ _ _ | startWithPassword _ _ _ _ | abort | reset | loadVolume _ | unloadVolume =>
        exact withSelected_of_none none _
    rw [refused]
  | noPassword job selected ask type noStorage dryRun =>
    rw [plan, withSelected_of_some selected, if_pos ask]
  | noMode seconds modes empty =>
    subst empty
    rfl

theorem plan_of_sendable {order : Order} {b : Board}
    (sendable : ∀ result, ¬order.Unsendable b result) :
    ∃ errands effect, order.plan b = .ok ⟨errands, effect⟩ ∧ order.Sends b errands effect := by
  have job (about : order.aboutServer = false)
      (token : ∀ schedule, order = .trigger schedule → isToken schedule = true) :
      ∃ job, b.selectedJob? = some job := by
    by_contra none
    refine sendable _ (.noJob order about ?_ token)
    exact Option.eq_none_iff_forall_ne_some.mpr fun job selected => none ⟨job, selected⟩
  cases order with
  | start type noStorage dryRun =>
    obtain ⟨job, selected⟩ := job rfl nofun
    have noPassword : ¬job.needsCryptPassword = true := fun ask =>
      sendable _ (.noPassword job selected ask type noStorage dryRun)
    refine ⟨[startErrand job type noStorage dryRun], .sent, ?_,
      .job rfl job selected (selected_of_selectedJob? selected) _ rfl ?_⟩
    · rw [plan, withSelected_of_some selected, if_neg noPassword]
    · intro errand mem
      obtain rfl := List.mem_singleton.mp mem
      rfl
  | startWithPassword type noStorage dryRun password =>
    obtain ⟨job, selected⟩ := job rfl nofun
    refine ⟨[passwordErrand job password, startErrand job type noStorage dryRun], .sent,
      withSelected_of_some selected _,
      .job rfl job selected (selected_of_selectedJob? selected) _ rfl ?_⟩
    intro errand mem
    obtain rfl | mem := List.mem_cons.mp mem
    · rfl
    · obtain rfl := List.mem_singleton.mp mem
      rfl
  | abort =>
    obtain ⟨job, selected⟩ := job rfl nofun
    exact ⟨_, _, withSelected_of_some selected _, sends_jobPlan selected rfl rfl []⟩
  | reset =>
    obtain ⟨job, selected⟩ := job rfl nofun
    exact ⟨_, _, withSelected_of_some selected _, sends_jobPlan selected rfl rfl []⟩
  | loadVolume number =>
    obtain ⟨job, selected⟩ := job rfl nofun
    exact ⟨_, _, withSelected_of_some selected _, sends_jobPlan selected rfl rfl _⟩
  | unloadVolume =>
    obtain ⟨job, selected⟩ := job rfl nofun
    exact ⟨_, _, withSelected_of_some selected _, sends_jobPlan selected rfl rfl []⟩
  | trigger schedule =>
    have token : isToken schedule = true := by
      by_contra broken
      exact sendable _ (.noToken schedule (Bool.not_eq_true _ ▸ broken))
    obtain ⟨job, selected⟩ := job rfl (by rintro _ ⟨⟩; exact token)
    exact ⟨_, _, (if_pos token).trans (withSelected_of_some selected _),
      sends_jobPlan selected rfl rfl _⟩
  | pause seconds modes =>
    have some : ¬modes.isEmpty = true := fun empty =>
      sendable _ (.noMode seconds modes (modes.isEmpty_iff.mp empty))
    exact ⟨_, _, if_neg some, .server _ _ _ _ rfl rfl rfl rfl⟩
  | toggle =>
    cases state : b.runState with
    | running =>
      refine ⟨_, _, by rw [plan, state], .server _ _ _ _ ?_ rfl rfl rfl⟩
      simp only [serverStep?, state]
    | paused _ | suspended =>
      refine ⟨_, _, by rw [plan, state], .server _ _ _ _ ?_ rfl rfl rfl⟩
      simp only [serverStep?, state]

end Order

/-! ## Sending -/

/-- The server accepts all of these calls when they are made one after the other. -/
def Responder.Accepts (server : Responder) (heard : Transcript) (calls : List Call) : Prop :=
  ∀ exchange ∈ server.answers heard calls, exchange.2.outcome = .ok ()

theorem recorded_sendAll (server : Responder) (errands : List Errand) (p : Poll) (heard : Transcript) :
    (server.Accepts heard (errands.map Errand.call) ∧
      (sendAll errands p).recorded server heard =
        (.ok (), p, heard ++ server.answers heard (errands.map Errand.call))) ∨
    ∃ before failing after cause, errands = before ++ failing :: after ∧
      server.Accepts heard (before.map Errand.call) ∧
      (server (heard ++ server.answers heard (before.map Errand.call)) failing.call).outcome =
        .error cause ∧
      (sendAll errands p).recorded server heard =
        (.error (.command failing.action cause), p,
          heard ++ server.answers heard ((before ++ [failing]).map Errand.call)) := by
  induction errands generalizing heard with
  | nil =>
    refine .inl ⟨fun _ mem => absurd mem List.not_mem_nil, ?_⟩
    rw [List.map_nil, Responder.answers, List.append_nil]
    rfl
  | cons errand rest ih =>
    rw [sendAll_cons, recorded_ask]
    cases outcome : (server heard errand.call).outcome with
    | error cause =>
      have merged : (server heard errand.call).merged = .error cause := by
        rw [Answer.merged, outcome]
      refine .inr ⟨[], errand, rest, cause, rfl, fun _ mem => absurd mem List.not_mem_nil, ?_, ?_⟩
      · rw [List.map_nil, Responder.answers, List.append_nil]
        exact outcome
      · rw [merged]
        rfl
    | ok done =>
      have merged : ∃ row, (server heard errand.call).merged = .ok row :=
        ⟨_, by rw [Answer.merged, outcome]⟩
      obtain ⟨row, merged⟩ := merged
      rw [merged]
      dsimp only
      obtain ⟨accepted, ran⟩ | ⟨before, failing, after, cause, same, accepted, failed, ran⟩ :=
        ih (heard ++ [(errand.call, server heard errand.call)])
      · refine .inl ⟨?_, ?_⟩
        · exact List.forall_mem_cons.mpr ⟨outcome, accepted⟩
        · rw [ran, List.append_assoc]
          rfl
      · refine .inr ⟨errand :: before, failing, after, cause, ?_, ?_, ?_, ?_⟩
        · rw [same, List.cons_append]
        · exact List.forall_mem_cons.mpr ⟨outcome, accepted⟩
        · rw [List.append_assoc] at failed
          exact failed
        · rw [ran, List.append_assoc]
          rfl

/-! ## The refresh after the commands -/

theorem recorded_steady {α : Type} {P : Call → Prop} {cue : Cue} {p : Poll} {step : Step Poll α}
    (pieces : Pieces (Steady P) cue p step) (server : Responder) (heard : Transcript) :
    ∃ more, (step.recorded server heard).2.2 = heard ++ more ∧ ∀ exchange ∈ more, P exchange.1 :=
  noted_run pieces (fun call heard _ allowed => ⟨(call, server heard call), rfl, allowed⟩) heard

/-- A full refresh has led from `p` to `q`, with these calls and answers. Unless polling has stopped
or another refresh is under way, it asks for the list of jobs and the run state, and if polling goes
on then, for the status of the selected job. -/
structure Refreshed (server : Responder) (heard : Transcript) (p q : Poll) (more : Transcript) :
    Prop where
  ran : ∃ outcome, (refreshAll p).recorded server heard = (outcome, q, heard ++ more)
  polled : ∀ exchange ∈ more, polls exchange.1 = true
  full : p.terminated = false → p.busy = [] →
    ∃ rest, more.map Prod.fst = listCall :: stateCall :: rest ∧
      (q.terminated = false → ∀ uuid, p.board.selected = some uuid →
        rest.head? = some (statusCall uuid))

def Polling.Poll.listed (p : Poll) (answer : Answer) : Poll :=
  { p with
    board := { p.board with roster := relisted answer p.board.roster }
    events := p.events ++ listNews answer }

def Polling.Poll.stated (p : Poll) (answer : Answer) : Poll :=
  { p with
    board := { p.board with runState := toldState answer p.board.runState }
    failures := toldFailures answer p.failures
    terminated := (stop? p.settings p.failures answer).isSome
    events := p.events ++ stateNews p.settings p.failures p.board.runState answer }

section

variable {p : Poll} (server : Responder) (heard : Transcript) (idle : p.busy = [])
include idle

theorem recorded_jobList :
    ((refresh .jobList p).recorded server heard).2 =
      (p.listed (server heard listCall), heard ++ [(listCall, server heard listCall)]) := by
  have call : pollCall Flight.jobList.request = listCall := rfl
  rw [recorded, runWith_refresh, begin?_of_idle idle rfl]
  dsimp only
  rw [runWith_land, call]
  simp [Responder.record, Poll.receive, Poll.finish, Poll.receiveJobs_snd, Poll.filed, Board.filed,
    Poll.news, Poll.release, Poll.occupy, Poll.listed]

theorem recorded_runState (alive : p.terminated = false) :
    ∃ outcome, (refresh .runState p).recorded server heard =
      ((stop? p.settings p.failures (server heard stateCall)).elim (.ok outcome) .error,
        p.stated (server heard stateCall), heard ++ [(stateCall, server heard stateCall)]) := by
  have call : pollCall Flight.runState.request = stateCall := rfl
  rw [recorded, runWith_refresh, begin?_of_idle idle (by rw [Poll.firstCall, alive]; rfl)]
  dsimp only
  rw [runWith_land, call]
  simp only [Responder.record, Poll.receive, Poll.finish]
  rw [Poll.receiveRunState_eq, Poll.filed_state _ _ (by exact alive)]
  refine ⟨if (Poll.decoded RunState.ofFields (server heard stateCall)).isOk then .updated else .failed,
    ?_⟩
  simp [Poll.release, Poll.occupy, Poll.stated]

theorem recorded_refreshAll (alive : p.terminated = false) :
    let list := server heard listCall
    let state := server (heard ++ [(listCall, list)]) stateCall
    let heard' := heard ++ [(listCall, list), (stateCall, state)]
    (refreshAll p).recorded server heard =
      match stop? p.settings p.failures state with
      | some stop => (.error stop, (p.listed list).stated state, heard')
      | none =>
        (.ok (), ((refresh .jobInfo ((p.listed list).stated state)).recorded server heard').2) := by
  intro list state heard'
  have listed := recorded_jobList server heard idle
  obtain ⟨outcome, stated⟩ := recorded_runState (p := p.listed list) server
    (heard ++ [(listCall, list)]) idle alive
  rw [recorded] at listed stated
  rw [recorded, refreshAll, runWith_cycle _ _ _ _ alive, if_pos rfl, listed]
  dsimp only
  rw [stated, List.append_assoc]
  have same : stop? (p.listed list).settings (p.listed list).failures
      (server (heard ++ [(listCall, list)]) stateCall) = stop? p.settings p.failures state := rfl
  rw [same]
  cases stop? p.settings p.failures state with
  | some stop => rfl
  | none => rfl

theorem recorded_jobInfo_of_some {uuid : String} (selected : p.board.selected = some uuid) :
    let status := server heard (statusCall uuid)
    let heard' := heard ++ [(statusCall uuid, status)]
    ∃ q, ((refresh .jobInfo p).recorded server heard).2 =
        (q, if (Poll.decoded Snapshot.ofFields status).isOk
          then heard' ++ [(detailCall uuid, server heard' (detailCall uuid))] else heard') ∧
      q.board.runState = p.board.runState ∧
      q.board.roster = (toldJob? uuid status).elim p.board.roster p.board.roster.update := by
  intro status heard'
  have first : p.firstCall .jobInfo = .waiting (.jobStatus uuid) := by
    rw [Poll.firstCall, selected]
  have call : pollCall (Flight.jobStatus uuid).request = statusCall uuid := rfl
  have next : pollCall (detailRequest uuid) = detailCall uuid := rfl
  rw [recorded, runWith_refresh, begin?_of_idle idle first]
  dsimp only
  rw [runWith_land, call]
  simp only [Responder.record, Poll.receive, Poll.receiveStatus_eq]
  cases (Poll.decoded Snapshot.ofFields (server heard (statusCall uuid))).isOk with
  | true =>
    simp only [if_true, next, Poll.receiveDetail_snd]
    exact ⟨_, rfl, rfl, rfl⟩
  | false => exact ⟨_, rfl, rfl, rfl⟩

end

theorem refreshed_refreshAll (server : Responder) (heard : Transcript) (p : Poll) :
    ∃ q more, Refreshed server heard p q more := by
  rcases ran : (refreshAll p).recorded server heard with ⟨outcome, q, all⟩
  obtain ⟨more, calls, polled⟩ := recorded_steady (pieces_steady_cycle true p) server heard
  have same : all = heard ++ more := by
    rw [← calls]
    exact (congrArg (fun ran => ran.2.2) ran).symm
  subst same
  refine ⟨q, more, ⟨outcome, ran⟩, polled, fun alive idle => ?_⟩
  have refreshed := (recorded_refreshAll server heard idle alive).symm.trans ran
  generalize server heard listCall = list at refreshed
  generalize server (heard ++ [(listCall, list)]) stateCall = state at refreshed
  have stopped : ((p.listed list).stated state).terminated =
    (stop? p.settings p.failures state).isSome := rfl
  cases stops : stop? p.settings p.failures state with
  | some stop =>
    rw [stops] at refreshed stopped
    obtain ⟨_, rfl, rfl⟩ : Except.error stop = outcome ∧ (p.listed list).stated state = q ∧
        [(listCall, list), (stateCall, state)] = more := by simpa using refreshed
    exact ⟨[], rfl, fun still => absurd (still.symm.trans stopped) nofun⟩
  | none =>
    rw [stops] at refreshed
    have told := congrArg (fun ran => ran.2.2) refreshed
    dsimp only at told
    obtain ⟨rest, asked, _⟩ := recorded_steady
      (pieces_steady_refresh .jobInfo ((p.listed list).stated state)) server
      (heard ++ [(listCall, list), (stateCall, state)])
    obtain rfl : (listCall, list) :: (stateCall, state) :: rest = more := by
      have ends := asked.symm.trans told
      simpa using ends
    refine ⟨rest.map Prod.fst, rfl, fun _ uuid chosen => ?_⟩
    obtain ⟨_, ran, _⟩ := recorded_jobInfo_of_some (p := (p.listed list).stated state) server
      (heard ++ [(listCall, list), (stateCall, state)]) idle chosen
    have last := asked.symm.trans (congrArg Prod.snd ran)
    dsimp only at last
    split at last
    · obtain rfl := List.append_cancel_left (last.trans (List.append_assoc ..))
      rfl
    · obtain rfl := List.append_cancel_left last
      rfl

/-! ## Carrying out -/

/-- How an order ends whose commands are sent: with the first one that fails, or with a full
refresh. -/
inductive Order.Ends (server : Responder) (heard : Transcript) (p : Poll) (errands : List Errand)
    (effect : Effect) : Except Refusal Effect × Poll × Transcript → Prop where
  | failed (before : List Errand) (failing : Errand) (after : List Errand) (cause : Failure)
      (order : errands = before ++ failing :: after)
      (accepted : server.Accepts heard (before.map Errand.call))
      (fails : (server (heard ++ server.answers heard (before.map Errand.call))
        failing.call).outcome = .error cause) :
      Ends server heard p errands effect
        (.error (.command failing.action cause), p,
          heard ++ server.answers heard ((before ++ [failing]).map Errand.call))
  | accepted (accepted : server.Accepts heard (errands.map Errand.call)) (q : Poll)
      (more : Transcript)
      (refreshed : Refreshed server (heard ++ server.answers heard (errands.map Errand.call)) p q
        more) :
      Ends server heard p errands effect
        (.ok effect, q, heard ++ server.answers heard (errands.map Errand.call) ++ more)

theorem Order.Ends.ok_of_accepts {server : Responder} {heard : Transcript} {p : Poll}
    {errands : List Errand} {effect : Effect} {ran : Except Refusal Effect × Poll × Transcript}
    (ends : Order.Ends server heard p errands effect ran)
    (accepts : server.Accepts heard (errands.map Errand.call)) : ran.1 = .ok effect := by
  cases ends with
  | accepted => rfl
  | failed before failing after cause order _ fails =>
    subst order
    have made : (failing.call, server (heard ++ server.answers heard (before.map Errand.call))
        failing.call) ∈ server.answers heard ((before ++ failing :: after).map Errand.call) := by
      rw [List.map_append, Responder.answers_append]
      exact List.mem_append_right _ List.mem_cons_self
    exact absurd ((accepts _ made).symm.trans fails) nofun

theorem Order.Sends.errands_ne_nil {b : Board} {order : Order} {errands : List Errand}
    {effect : Effect} (sends : order.Sends b errands effect) : errands ≠ [] := by
  cases sends with
  | job about job selected own _ steps addressed =>
    rintro rfl
    cases order with
    | pause _ _ | toggle => cases about
    | start _ _ _ | startWithPassword _ _ _ _ | abort | reset | loadVolume _ | unloadVolume
    | trigger _ => cases steps
  | server => exact List.cons_ne_nil _ _

theorem recorded_carryOut {order : Order} {p : Poll} {errands : List Errand} {effect : Effect}
    (planned : order.plan p.board = .ok ⟨errands, effect⟩) (some : errands ≠ []) (server : Responder)
    (heard : Transcript) :
    Order.Ends server heard p errands effect ((order.carryOut p).recorded server heard) := by
  have sent : ¬errands.isEmpty = true := fun empty => some (List.isEmpty_iff.mp empty)
  rw [carryOut_apply, planned]
  dsimp only
  rw [if_neg sent, recorded_bind]
  obtain ⟨accepted, ran⟩ | ⟨before, failing, after, cause, same, accepted, fails, ran⟩ :=
    recorded_sendAll server errands p heard
  · rw [ran]
    obtain ⟨q, more, refreshed⟩ := refreshed_refreshAll server
      (heard ++ server.answers heard (errands.map Errand.call)) p
    obtain ⟨outcome, refreshes⟩ := refreshed.ran
    dsimp only
    rw [afterCommands, Script.bind_apply, recorded_bind, refreshes]
    exact .accepted accepted q more refreshed
  · rw [ran]
    exact .failed before failing after cause same accepted fails

/-- Every order, whatever the board shows and the server answers, is either answered without asking
or changing anything, because it cannot be sent, or sends its commands once each until one of them
fails. A failure is passed on as it is and leaves everything else as it was. After success everything
is refreshed, which cannot make a failure of it. -/
theorem carryOut_exact (order : Order) (p : Poll) (server : Responder) (heard : Transcript) :
    (∀ result, order.Unsendable p.board result →
      (order.carryOut p).recorded server heard = (result, p, heard)) ∧
    ((∀ result, ¬order.Unsendable p.board result) →
      ∃ errands effect, order.Sends p.board errands effect ∧
        Order.Ends server heard p errands effect ((order.carryOut p).recorded server heard)) := by
  refine ⟨?_, ?_⟩
  · intro result unsendable
    rw [Order.carryOut_unsendable unsendable]
    rfl
  · intro sendable
    obtain ⟨errands, effect, planned, sends⟩ := Order.plan_of_sendable sendable
    exact ⟨errands, effect, sends, recorded_carryOut planned sends.errands_ne_nil server heard⟩

end BackupConsole
