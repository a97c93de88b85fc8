import BackupConsole.CommandLine.Work
import BackupConsole.Proofs.Console.Undelivered
import BackupConsole.Proofs.Order.CarryOut
import BackupConsole.Proofs.Polling.Readings

set_option autoImplicit false

namespace BackupConsole

open Job Wire Polling Step

namespace CommandLine

def reachCall : Call := ⟨commandLevel, { name := "STATUS" }⟩

/-- What a command is told before it does its work. -/
structure Briefing where
  reach : Answer
  list : Answer
  state : Answer

def Briefing.transcript (b : Briefing) : Transcript :=
  [(reachCall, b.reach), (listCall, b.list), (stateCall, b.state)]

def briefing (server : Responder) : Briefing :=
  let reach := server [] reachCall
  let list := server [(reachCall, reach)] listCall
  { reach, list, state := server [(reachCall, reach), (listCall, list)] stateCall }

theorem rereads_stateNews (settings : Polling.Settings) (failures : UInt32) (state : RunState)
    (answer : Answer) : (stateNews settings failures state answer).any Event.rereads = false := by
  unfold stateNews
  cases Poll.decoded RunState.ofFields answer with
  | ok told =>
    dsimp only
    split <;> rfl
  | error cause =>
    dsimp only
    cases stop? settings failures answer <;> rfl

def briefed (settings : Config.Settings) (b : Briefing) : Console :=
  let c := consoleOf settings
  { c with poll := (c.poll.listed b.list).stated b.state }.pump.2

section

variable (settings : Config.Settings) (b : Briefing)

theorem roster_briefed : (briefed settings b).board.roster = relisted b.list {} := by
  rw [briefed, Console.board_pump]
  rfl

theorem runState_briefed : (briefed settings b).board.runState = toldState b.state .running := by
  rw [briefed, Console.board_pump]
  rfl

theorem busy_briefed : (briefed settings b).poll.busy = [] := by
  rw [briefed, Console.poll_pump]
  rfl

theorem selected_briefed : (briefed settings b).board.selected = none := by
  rw [briefed, Console.board_pump]
  rfl

theorem table_briefed_unlisted {cause : Failure} (fails : b.list.outcome = .error cause) :
    (briefed settings b).table.jobs = [] := by
  have quiet : ((consoleOf settings).poll.listed b.list |>.stated b.state).events.any
      Event.rereads = false := by
    have events : ((consoleOf settings).poll.listed b.list |>.stated b.state).events =
        listNews b.list ++ stateNews (consoleOf settings).poll.settings 0 .running b.state := rfl
    rw [events, listNews, fails, List.nil_append, rereads_stateNews]
  -- the table is not brought in line with the roster, which is still empty
  rw [briefed, Console.table_pump, quiet]
  rfl

end

theorem stop?_zero (settings : Polling.Settings) (answer : Answer) :
    stop? settings 0 answer =
      match reading answer with
      | .ok _ => none
      | .error cause => if settings.threshold = 0 then some (.runStateLost 1 cause) else none := by
  have strict : settings.threshold < 0 + 1 ↔ settings.threshold = 0 := by
    rw [UInt32.lt_iff_toNat_lt, ← UInt32.toNat_inj]
    exact Nat.lt_one_iff
  unfold stop? reading
  cases Poll.decoded RunState.ofFields answer with
  | ok state => rfl
  | error cause =>
    simp only [strict]
    rfl

theorem refresh_jobInfo_unselected {p : Poll} (unselected : p.board.selected = none) :
    Polling.refresh .jobInfo p = .done (.ok .skipped) p := by
  rw [refresh_apply, Poll.begin?, Poll.firstCall, unselected]

theorem recorded_refresh {c : Console} (idle : c.poll.busy = []) (alive : c.poll.terminated = false)
    (unselected : c.board.selected = none) (server : Responder) (heard : Transcript) :
    let list := server heard listCall
    let state := server (heard ++ [(listCall, list)]) stateCall
    (Console.refresh c).recorded server heard =
      ((stop? c.poll.settings c.poll.failures state).elim (.ok ()) .error,
        { c with poll := (c.poll.listed list).stated state }.pump.2,
        heard ++ [(listCall, list), (stateCall, state)]) := by
  intro list state
  have refreshed : (refreshAll c.poll).recorded server heard =
      ((stop? c.poll.settings c.poll.failures state).elim (.ok ()) .error,
        (c.poll.listed list).stated state, heard ++ [(listCall, list), (stateCall, state)]) := by
    have skips : Polling.refresh .jobInfo ((c.poll.listed list).stated state) =
        .done (.ok .skipped) ((c.poll.listed list).stated state) :=
      refresh_jobInfo_unselected unselected
    rw [recorded_refreshAll server heard idle alive]
    cases stop? c.poll.settings c.poll.failures state with
    | some stop => rfl
    | none =>
      dsimp only
      rw [skips]
      rfl
  rw [Console.refresh, Script.bind_apply, recorded_bind, Console.recorded_polling, refreshed]
  rfl

theorem recorded_reach (address : String) (c : Console) (server : Responder) :
    (reach address c).recorded server [] =
      (match (server [] reachCall).merged with
        | .error cause => .error (.unreachable address cause)
        | .ok _ => .ok (), c, [(reachCall, server [] reachCall)]) := by
  rw [reach, Script.bind_apply, Script.ask, Step.bind, recorded_ask]
  have call : (⟨commandLevel, { name := "STATUS" }⟩ : Call) = reachCall := rfl
  rw [call]
  dsimp only [Step.bind]
  cases (server [] reachCall).merged with
  | error cause => rfl
  | ok row => rfl

theorem recorded_run (rendering : Rendering) (settings : Config.Settings) (address : String)
    (command : Command) (server : Responder) :
    let b := briefing server
    (run rendering address command (consoleOf settings)).recorded server [] =
      match b.reach.merged with
      | .error cause =>
        (.error (.unreachable address cause), consoleOf settings, [(reachCall, b.reach)])
      | .ok _ =>
        match stop? (consoleOf settings).poll.settings 0 b.state with
        | some stop => (.error (.unreadState stop), briefed settings b, b.transcript)
        | none => (work rendering command (briefed settings b)).recorded server b.transcript := by
  intro b
  rw [run, Script.bind_apply, recorded_bind, recorded_reach]
  have answered : server [] reachCall = b.reach := rfl
  rw [answered]
  cases b.reach.merged with
  | error cause => rfl
  | ok row =>
    have refreshed : (Console.refresh (consoleOf settings)).recorded server [(reachCall, b.reach)] =
        ((stop? (consoleOf settings).poll.settings 0 b.state).elim (.ok ()) .error,
          briefed settings b, b.transcript) := recorded_refresh rfl rfl rfl server _
    dsimp only
    rw [Script.bind_apply, recorded_bind, refreshed]
    cases stop? (consoleOf settings).poll.settings 0 b.state with
    | some stop => rfl
    | none => rfl

/-! ## The work of a command -/

def Command.job? : Command → Option String
  | .start name _ _ _ _ | .abort name | .reset name | .loadVolume name _ | .unloadVolume name
  | .trigger name _ | .schedules name => some name
  | .watch | .jobs _ | .pause _ _ | .toggle | .config => none

def jobless (state : RunState) : Console := { poll := { board := { runState := state } } }

def suspendCall : Call := ⟨commandLevel, { name := "SUSPEND" }⟩

section

variable {c : Console} {name : String} (rendering : Rendering)

theorem jobsText_jobless (empty : c.table.jobs = []) (json : Bool) :
    jobsText rendering c json = jobsText rendering (jobless c.board.runState) json := by
  have none : (jobless c.board.runState).table.jobs = [] := rfl
  rw [jobsText, jobsText, jobTable, jobTable, empty, none]
  rfl

theorem selectByName_absent (absent : c.board.roster.findByName? name = none) :
    selectByName name c = .done (.error (.noSuchJob name)) c := by
  rw [selectByName, Script.bind_apply, Script.get, Step.bind, absent]
  rfl

theorem work_absent {command : Command} (about : command.job? = some name)
    (absent : c.board.roster.findByName? name = none) :
    work rendering command c = .done (.error (.noSuchJob name)) c := by
  have ordered (theOrder : Order) (report : String) :
      orderOn name theOrder report c = .done (.error (.noSuchJob name)) c := by
    rw [orderOn, Script.bind_apply, selectByName_absent absent]
    rfl
  cases command with
  | watch | jobs _ | pause _ _ | toggle | config => cases about
  | start _ _ _ _ _ | abort _ | reset _ | loadVolume _ _ | unloadVolume _ | trigger _ _ =>
    cases about
    exact ordered _ _
  | schedules _ =>
    cases about
    rw [work, Script.bind_apply, selectByName_absent absent]
    rfl

end

section

variable {c : Console} {name : String} (rendering : Rendering) (server : Responder)
  (heard : Transcript)

theorem recorded_toggle (running : c.board.runState = .running) :
    let ran := (work rendering .toggle c).recorded server heard
    let answer := server heard suspendCall
    (∃ more, ran.2.2 = heard ++ (suspendCall, answer) :: more) ∧
      (answer.outcome = .ok () → ran.1 = .ok (line "Server suspended")) := by
  intro ran answer
  have planned : Order.toggle.plan c.poll.board =
      .ok ⟨[⟨.server .suspend, suspendCall.request⟩], .switched .suspended⟩ := by
    have running : c.poll.board.runState = .running := running
    rw [Order.plan, running]
    rfl
  have ends := recorded_carryOut planned (List.cons_ne_nil _ _) server heard
  have carried := Console.recorded_polling Order.toggle.carryOut server c heard
  have works : ran = _ := recorded_bind server _ (Console.carryOut .toggle c) heard
  rw [Console.carryOut, carried] at works
  generalize (Order.toggle.carryOut c.poll).recorded server heard = done at ends works
  cases ends with
  | failed before failing after cause order accepted fails =>
    -- there is one command, so it is the one that fails
    cases before with
    | cons first rest =>
      obtain ⟨_, nothing⟩ := List.cons.inj order
      exact absurd nothing.symm (by simp)
    | nil =>
      obtain ⟨rfl, -⟩ := List.cons.inj order
      rw [works]
      refine ⟨⟨[], rfl⟩, fun accepts => ?_⟩
      rw [List.map_nil, Responder.answers, List.append_nil] at fails
      cases fails.symm.trans accepts
  | accepted accepted q more refreshed =>
    rw [works]
    exact ⟨⟨more, List.append_assoc ..⟩, fun _ => rfl⟩

theorem recorded_schedules {job : Snapshot} (found : c.board.roster.findByName? name = some job)
    (unselected : c.board.selected = none) (idle : c.poll.busy = []) {cause : Failure}
    (fails : (server heard (schedulesCall job.uuid)).outcome = .error cause) :
    let ran := (work rendering (.schedules name) c).recorded server heard
    (∃ more, ran.2.2 =
        heard ++ (schedulesCall job.uuid, server heard (schedulesCall job.uuid)) :: more) ∧
      ran.1 = .ok "" := by
  intro ran
  have other : c.board.selected ≠ some job.uuid := by
    rw [unselected]
    exact nofun
  have chooses : selectByName name c =
      (Console.select (some job.uuid) c).bind fun _ => pure (.ok ()) := by
    rw [selectByName, Script.bind_apply, Script.get, Step.bind, found]
    rfl
  constructor
  · have moved : (c.selecting (some job.uuid)).poll.board.selected = some job.uuid :=
      congrArg Board.selected (Console.board_selecting other)
    have free : (c.selecting (some job.uuid)).poll.isBusy .schedules = false := by
      change c.poll.busy.contains .schedules = false
      rw [idle]
      rfl
    refine recorded_of_call? ?_ heard
    rw [work, Script.bind_apply, chooses, Console.select_other other, Console.polling, Script.within,
      Console.refresh_schedules_apply moved, free, if_neg (by decide), land_apply]
    rfl
  · have undelivered : (server.serve (schedulesCall job.uuid) heard).1.outcome = .error cause := fails
    have missing := (Console.select_undelivered undelivered other).2
    rw [← recorded_eq_run] at missing
    change ((work rendering (.schedules name) c).recorded server heard).1 = _
    rw [work, Script.bind_apply, recorded_bind, chooses, recorded_bind]
    generalize (Console.select (some job.uuid) c).recorded server heard = chosen at missing
    obtain ⟨changed, c, heard⟩ := chosen
    change Except.ok (schedulesText c) = _
    rw [schedulesText, missing]
    rfl

end

/-! ## Failures -/

/-- The server has been reached, and polling does not stop at its run state. -/
structure Briefing.Goes (b : Briefing) (settings : Config.Settings) : Prop where
  reached : ∃ row, b.reach.merged = .ok row
  tolerated : ∀ cause, reading b.state = .error cause → settings.runStateFailureThreshold ≠ 0

/-- What becomes of a failed call, for each call whose answer the command needs. -/
structure Accounted (rendering : Rendering) (settings : Config.Settings) (address : String)
    (command : Command) (server : Responder) (b : Briefing) (ran : Ending × Console × Transcript) :
    Prop where
  unreachable : ∀ cause, b.reach.merged = .error cause →
    ran.1 = .error (.unreachable address cause) ∧ ran.2.2 = [(reachCall, b.reach)]
  unread : ∀ row cause, b.reach.merged = .ok row → reading b.state = .error cause →
    settings.runStateFailureThreshold = 0 →
      ran.1 = .error (.unreadState (.runStateLost 1 cause)) ∧ ran.2.2 = b.transcript
  unstated : b.Goes settings → ∀ cause, reading b.state = .error cause →
    (∀ json, command = .jobs json → ∃ c, c.board.roster = relisted b.list {} ∧
      c.board.runState = .running ∧ ran = (.ok (jobsText rendering c json), c, b.transcript)) ∧
    (command = .toggle →
      let answer := server b.transcript suspendCall
      (∃ more, ran.2.2 = b.transcript ++ (suspendCall, answer) :: more) ∧
        (answer.outcome = .ok () → ran.1 = .ok (line "Server suspended")))
  unlisted : b.Goes settings → ∀ cause, b.list.outcome = .error cause →
    (∀ json, command = .jobs json →
      ran.1 = .ok (jobsText rendering (jobless (toldState b.state .running)) json) ∧
        ran.2.2 = b.transcript) ∧
    (∀ name, command.job? = some name →
      ran.1 = .error (.noSuchJob name) ∧ ran.2.2 = b.transcript)
  unscheduled : b.Goes settings → ∀ name job, command = .schedules name →
    (relisted b.list {}).findByName? name = some job →
      let answer := server b.transcript (schedulesCall job.uuid)
      ∀ cause, answer.outcome = .error cause →
        (∃ more, ran.2.2 = b.transcript ++ (schedulesCall job.uuid, answer) :: more) ∧ ran.1 = .ok ""

section

variable (rendering : Rendering) (settings : Config.Settings) (address : String)
  (command : Command) (server : Responder)

theorem recorded_run_goes (goes : (briefing server).Goes settings) :
    (run rendering address command (consoleOf settings)).recorded server [] =
      (work rendering command (briefed settings (briefing server))).recorded server
        (briefing server).transcript := by
  obtain ⟨⟨row, reached⟩, tolerated⟩ := goes
  rw [recorded_run, reached, stop?_zero]
  cases told : reading (briefing server).state with
  | ok state => rfl
  | error cause =>
    have some : (consoleOf settings).poll.settings.threshold ≠ 0 := tolerated cause told
    dsimp only
    rw [if_neg some]

theorem jobs_unlisted {cause : Failure} (fails : (briefing server).list.outcome = .error cause)
    (json : Bool) :
    ((work rendering (.jobs json) (briefed settings (briefing server))).recorded server
        (briefing server).transcript).1 =
      .ok (jobsText rendering (jobless (toldState (briefing server).state .running)) json) := by
  change Except.ok (jobsText rendering (briefed settings (briefing server)) json) = _
  rw [jobsText_jobless rendering (table_briefed_unlisted settings _ fails), runState_briefed]

theorem work_unlisted {cause : Failure} (fails : (briefing server).list.outcome = .error cause)
    {command : Command} {name : String} (about : command.job? = some name) :
    work rendering command (briefed settings (briefing server)) =
      .done (.error (.noSuchJob name)) (briefed settings (briefing server)) := by
  refine work_absent rendering about ?_
  rw [roster_briefed, relisted, fails]
  rfl

/-- Every command that is about jobs or the server, whatever the server answers, ends with the failure
of a call that it needs if that is the first one, or the run state when none may be lost. Any other
failure is not reported. -/
theorem run_accounts_for_failures :
    Accounted rendering settings address command server (briefing server)
      ((run rendering address command (consoleOf settings)).recorded server []) where
  unreachable := by
    intro cause fails
    rw [recorded_run, fails]
    exact ⟨rfl, rfl⟩
  unread := by
    intro row cause reached fails strict
    have strict : (consoleOf settings).poll.settings.threshold = 0 := strict
    rw [recorded_run, reached, stop?_zero, fails]
    dsimp only
    rw [if_pos strict]
    exact ⟨rfl, rfl⟩
  unstated := by
    intro goes cause fails
    have running : (briefed settings (briefing server)).board.runState = .running := by
      have untold : Poll.decoded RunState.ofFields (briefing server).state = .error cause := fails
      rw [runState_briefed, toldState, untold]
    rw [recorded_run_goes rendering settings address command server goes]
    constructor
    · rintro json rfl
      exact ⟨_, roster_briefed settings _, running, rfl⟩
    · rintro rfl
      exact recorded_toggle rendering server _ running
  unlisted := by
    intro goes cause fails
    rw [recorded_run_goes rendering settings address command server goes]
    constructor
    · rintro json rfl
      exact ⟨jobs_unlisted rendering settings server fails json, rfl⟩
    · intro name about
      rw [work_unlisted rendering settings server fails about]
      exact ⟨rfl, rfl⟩
  unscheduled := by
    rintro goes name job rfl found answer cause fails
    rw [recorded_run_goes rendering settings address _ server goes]
    rw [← roster_briefed settings] at found
    exact recorded_schedules rendering server _ found (selected_briefed settings _)
      (busy_briefed settings _) fails

end

def listless : Responder := fun _ call =>
  if call = listCall then .failed (.connection "reset by peer")
  else { rows := [.ofPairs [("state", "running")]] }

theorem listless_goes : (briefing listless).Goes {} where
  reached := ⟨_, rfl⟩
  tolerated _ _ := by decide

theorem listless_untold :
    (∀ rendering,
      let jobs := (run rendering "localhost:38523" (.jobs true) (consoleOf {})).recorded listless []
      (listCall, .failed (.connection "reset by peer")) ∈ jobs.2.2 ∧
        jobs.1 = .ok (line (rendering.json (Json.ofJobs [])))) ∧
    ∀ rendering,
      let abort :=
        (run rendering "localhost:38523" (.abort "alpha") (consoleOf {})).recorded listless []
      (listCall, .failed (.connection "reset by peer")) ∈ abort.2.2 ∧
        abort.1 = .error (.noSuchJob "alpha") := by
  have fails : (briefing listless).list.outcome = .error (.connection "reset by peer") := rfl
  have heard : (listCall, .failed (.connection "reset by peer")) ∈ (briefing listless).transcript :=
    List.mem_cons_of_mem _ List.mem_cons_self
  constructor
  · intro rendering
    dsimp only
    rw [recorded_run_goes rendering _ _ _ _ listless_goes]
    exact ⟨heard, jobs_unlisted rendering {} listless fails true⟩
  · intro rendering
    dsimp only
    rw [recorded_run_goes rendering _ _ _ _ listless_goes,
      work_unlisted rendering {} listless fails rfl]
    exact ⟨heard, rfl⟩

end CommandLine

end BackupConsole
