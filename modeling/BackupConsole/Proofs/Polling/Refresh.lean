import BackupConsole.Polling.Cycle

set_option autoImplicit false

namespace BackupConsole

open Job Wire

namespace Polling

/-! ## What the answers store -/

def relisted (answer : Answer) (roster : Roster) : Roster :=
  match answer.outcome with
  | .ok () => roster.replace (Poll.jobsOf answer.rows)
  | .error _ => roster

def listNews (answer : Answer) : List Event :=
  match answer.outcome with
  | .ok () => [.jobs]
  | .error _ => []

def toldState (answer : Answer) (state : RunState) : RunState :=
  match Poll.decoded RunState.ofFields answer with
  | .ok told => told
  | .error _ => state

def toldFailures (answer : Answer) (failures : UInt32) : UInt32 :=
  match Poll.decoded RunState.ofFields answer with
  | .ok _ => 0
  | .error _ => failures + 1

def stop? (settings : Settings) (failures : UInt32) (answer : Answer) : Option Stop :=
  match Poll.decoded RunState.ofFields answer with
  | .ok _ => none
  | .error cause =>
    if settings.threshold < failures + 1 then some (.runStateLost (failures + 1) cause) else none

def stateNews (settings : Settings) (failures : UInt32) (state : RunState) (answer : Answer) :
    List Event :=
  match Poll.decoded RunState.ofFields answer with
  | .ok told => if state != told then [.runState told] else []
  | .error _ => (stop? settings failures answer).toList.map fun stop => .fatal stop.message

/-- The snapshot of the job `uuid` that an answer tells; one of another job does not count. -/
def toldJob? (uuid : String) (answer : Answer) : Option Snapshot :=
  (Poll.decoded Snapshot.ofFields answer).toOption.filter fun job => job.uuid = uuid

def toldDetail? (selected : Option String) (uuid : String) (answer : Answer) : Option Detail :=
  if selected = some uuid then (answer.merged.map (Detail.ofFields uuid)).toOption else none

theorem toldDetail?_eq_some {selected : Option String} {uuid : String} {answer : Answer}
    {detail : Detail} (told : toldDetail? selected uuid answer = some detail) :
    selected = some uuid ∧ ∃ row, answer.merged = .ok row ∧ detail = Detail.ofFields uuid row := by
  rw [toldDetail?] at told
  split at told
  · rename_i still
    cases merged : answer.merged with
    | error cause =>
      rw [merged] at told
      cases told
    | ok row =>
      rw [merged] at told
      cases told
      exact ⟨still, row, rfl, rfl⟩
  · cases told

def toldSchedules? (selected : Option String) (uuid : String) (answer : Answer) :
    Option (List Schedule) :=
  if selected = some uuid then
    answer.outcome.toOption.map fun _ => Poll.schedulesOf answer.rows
  else none

theorem toldSchedules?_eq_some {selected : Option String} {uuid : String} {answer : Answer}
    {schedules : List Schedule} (told : toldSchedules? selected uuid answer = some schedules) :
    selected = some uuid ∧ answer.outcome = .ok () ∧ schedules = Poll.schedulesOf answer.rows := by
  unfold toldSchedules? at told
  split at told
  · next still =>
    cases outcome : answer.outcome with
    | error cause =>
      rw [outcome] at told
      cases told
    | ok done =>
      rw [outcome] at told
      cases told
      exact ⟨still, rfl, rfl⟩
  · cases told

def Event.fatal? : Event → Option String
  | .fatal message => some message
  | _ => none

inductive Query where
  | list
  | state
  | status (uuid : String)
  | detail (uuid : String)
  | schedules (uuid : String)

end Polling

open Polling

/-- The board with what the answer to a query tells. -/
def Board.filed (b : Board) (answer : Answer) : Query → Board
  | .list => { b with roster := relisted answer b.roster }
  | .state => { b with runState := toldState answer b.runState }
  | .status uuid => { b with roster := (toldJob? uuid answer).elim b.roster b.roster.update }
  | .detail uuid => { b with detail := (toldDetail? b.selected uuid answer).or b.detail }
  | .schedules uuid =>
    { b with schedules := (toldSchedules? b.selected uuid answer).getD b.schedules }

theorem Board.filed_schedules_of_error (b : Board) {answer : Answer} {cause : Failure}
    {uuid : String} (failed : answer.outcome = .error cause) :
    b.filed answer (.schedules uuid) = b := by
  rw [filed, toldSchedules?, failed]
  split <;> rfl

namespace Polling

namespace Poll

section

variable (p : Poll) (answer : Answer)

/-- What is announced when the answer to a query arrives. That polling has stopped is not announced
again. -/
def news : Query → List Event
  | .list => listNews answer
  | .state =>
    (stateNews p.settings p.failures p.board.runState answer).filter fun event =>
      !(p.terminated && event.fatal?.isSome)
  | .status _ => []
  | .detail uuid => (toldDetail? p.board.selected uuid answer).toList.map fun d => .jobInfo d.uuid
  | .schedules uuid =>
    (toldSchedules? p.board.selected uuid answer).toList.map fun _ => .schedules uuid

/-- Polling after the answer to a query, with the flag of the query still taken. -/
def filed (query : Query) : Poll :=
  { p with
    board := p.board.filed answer query
    failures := match query with
      | .state => toldFailures answer p.failures
      | _ => p.failures
    terminated := match query with
      | .state => p.terminated || (stop? p.settings p.failures answer).isSome
      | _ => p.terminated
    events := p.events ++ p.news answer query }

theorem filed_state (alive : p.terminated = false) :
    p.filed answer .state =
      { p with
        board := { p.board with runState := toldState answer p.board.runState }
        failures := toldFailures answer p.failures
        terminated := (stop? p.settings p.failures answer).isSome
        events := p.events ++ stateNews p.settings p.failures p.board.runState answer } := by
  simp [filed, Board.filed, news, alive]

/-! ## What receiving an answer does -/

theorem receiveJobs_eq :
    ∃ outcome, outcome ≠ .coalesced ∧
      p.receiveJobs answer = (.ok outcome, p.filed answer .list) := by
  unfold receiveJobs filed news Board.filed relisted listNews
  cases answer.outcome with
  | error cause => exact ⟨.failed, by decide, by simp⟩
  | ok done => exact ⟨.updated, by decide, rfl⟩

theorem receiveRunState_eq :
    p.receiveRunState answer =
      ((stop? p.settings p.failures answer).elim
          (.ok (if (decoded RunState.ofFields answer).isOk then .updated else .failed)) .error,
        p.filed answer .state) := by
  unfold receiveRunState filed news Board.filed toldState toldFailures stateNews stop?
  cases told : decoded RunState.ofFields answer with
  | ok state =>
    by_cases changed : (p.board.runState != state) = true
    · simp [Board.setRunState, changed, emit, Event.fatal?, Except.isOk, Except.toBool]
    · simp [Board.setRunState, changed, Except.isOk, Except.toBool]
  | error cause =>
    by_cases lost : p.settings.threshold < p.failures + 1
    · cases p.terminated <;> simp [lost, terminate, emit, Event.fatal?]
    · simp [lost, Except.isOk, Except.toBool]

theorem receiveStatus_eq (uuid : String) :
    p.receiveStatus uuid answer =
      (if (decoded Snapshot.ofFields answer).isOk then .waiting uuid else .ended (.ok .failed),
        p.filed answer (.status uuid)) := by
  unfold receiveStatus filed news Board.filed toldJob?
  cases decoded Snapshot.ofFields answer with
  | error cause => simp [Except.isOk, Except.toBool, Except.toOption]
  | ok job =>
    by_cases own : job.uuid = uuid
    · simp [own, Except.isOk, Except.toBool, Except.toOption, Option.filter]
    · simp [own, Except.isOk, Except.toBool, Except.toOption, Option.filter]

theorem receiveDetail_eq (uuid : String) :
    ∃ outcome, outcome ≠ .coalesced ∧ p.receiveDetail uuid answer =
      (.ok outcome, (p.filed answer (.detail uuid)).release .jobInfo) := by
  unfold receiveDetail storeDetail filed news Board.filed toldDetail?
  cases answer.merged with
  | error cause => exact ⟨.failed, by decide, by simp [Except.map, Except.toOption]⟩
  | ok row =>
    by_cases still : p.board.selected = some uuid
    · refine ⟨.updated, by decide, ?_⟩
      simp [Board.setDetail, Detail.uuid_ofFields, still, emit, Except.map, Except.toOption]
    · refine ⟨.skipped, by decide, ?_⟩
      simp [Board.setDetail, Detail.uuid_ofFields, still]

theorem receiveSchedules_eq (uuid : String) :
    ∃ outcome, outcome ≠ .coalesced ∧
      p.receiveSchedules uuid answer = (.ok outcome, p.filed answer (.schedules uuid)) := by
  unfold receiveSchedules filed news Board.filed toldSchedules?
  cases answer.outcome with
  | error cause => exact ⟨.failed, by decide, by simp [Except.toOption]⟩
  | ok done =>
    by_cases still : p.board.selected = some uuid
    · refine ⟨.updated, by decide, ?_⟩
      simp [Board.setSchedules, still, emit, Except.toOption]
    · refine ⟨.skipped, by decide, ?_⟩
      simp [Board.setSchedules, still]

end

theorem receiveJobs_snd (p : Poll) (answer : Answer) :
    (p.receiveJobs answer).2 = p.filed answer .list := by
  obtain ⟨outcome, _, same⟩ := p.receiveJobs_eq answer
  rw [same]

theorem receiveDetail_snd (p : Poll) (uuid : String) (answer : Answer) :
    (p.receiveDetail uuid answer).2 = (p.filed answer (.detail uuid)).release .jobInfo := by
  obtain ⟨outcome, _, same⟩ := p.receiveDetail_eq answer uuid
  rw [same]

end Poll

/-! ## Running a refresh -/

section

variable {ω : Type} (serve : Call → ω → Poll → Answer × ω × Poll) (p : Poll) (world : ω)

theorem runWith_land (flight : Flight) :
    (land flight p).runWith serve world =
      match serve (pollCall flight.request) world p with
      | (answer, world, p) =>
        match p.receive flight answer with
        | (.ended result, p) => (result, p, world)
        | (.waiting uuid, p) =>
          match serve (pollCall (detailRequest uuid)) world p with
          | (answer, world, p) =>
            ((p.receiveDetail uuid answer).1, (p.receiveDetail uuid answer).2, world) := by
  rw [land, Script.bind_apply, Step.runWith_bind, Script.ask, Step.runWith]
  obtain ⟨answer, world', p'⟩ := serve (pollCall flight.request) world p
  dsimp only
  rw [Step.runWith, Script.bind_apply, Step.runWith_bind, Script.change, Step.runWith]
  obtain ⟨progress, p''⟩ := p'.receive flight answer
  cases progress with
  | ended result => rfl
  | waiting uuid => rfl

theorem runWith_refresh (kind : Kind) :
    (refresh kind p).runWith serve world =
      match p.begin? kind with
      | (.ended result, p) => (result, p, world)
      | (.waiting flight, p) => (land flight p).runWith serve world := by
  rw [refresh, Script.bind_apply, Step.runWith_bind, Script.change, Step.runWith]
  obtain ⟨progress, p'⟩ := p.begin? kind
  cases progress with
  | ended result => rfl
  | waiting flight => rfl

theorem runWith_stateAndInfo :
    Step.runWith serve ((do
      match ← refresh .runState with
      | .error stop => return .error stop
      | .ok _ =>
        let _ ← refresh .jobInfo
        return .ok () : Script Poll (Except Stop Unit)) p) world =
      match (refresh .runState p).runWith serve world with
      | (.error stop, p, world) => (.error stop, p, world)
      | (.ok _, p, world) => (.ok (), ((refresh .jobInfo p).runWith serve world).2) := by
  rw [Script.bind_apply, Step.runWith_bind]
  obtain ⟨result, p', world'⟩ := (refresh .runState p).runWith serve world
  cases result with
  | error stop => rfl
  | ok outcome =>
    dsimp only
    rw [Script.bind_apply, Step.runWith_bind]
    rfl

theorem runWith_cycle (withJobList : Bool) (alive : p.terminated = false) :
    (cycle withJobList p).runWith serve world =
      match if withJobList then ((refresh .jobList p).runWith serve world).2 else (p, world) with
      | (p, world) =>
        match (refresh .runState p).runWith serve world with
        | (.error stop, p, world) => (.error stop, p, world)
        | (.ok _, p, world) => (.ok (), ((refresh .jobInfo p).runWith serve world).2) := by
  rw [cycle, Script.bind_apply, Step.runWith_bind, Script.get, Step.runWith]
  simp only [alive, Bool.false_eq_true, if_false]
  cases withJobList with
  | true =>
    simp only [if_true]
    rw [Script.bind_apply, Step.runWith_bind]
    exact runWith_stateAndInfo serve _ _
  | false =>
    exact runWith_stateAndInfo serve p world

end

end Polling

end BackupConsole
