import BackupConsole.Proofs.Polling.Company
import BackupConsole.Proofs.Script.Transcript
import BackupConsole.Proofs.Console.Pump

set_option autoImplicit false

namespace BackupConsole

open Job Wire Step

namespace Polling

def statusIn? (exchange : Call × Answer) : Option Snapshot :=
  if exchange.1.request.name = "JOB_STATUS" then
    (Poll.decoded Snapshot.ofFields exchange.2).toOption.filter fun job =>
      exchange.1.request.get? "jobUUID" = some job.uuid
  else none

def listIn? (exchange : Call × Answer) : Option (List Snapshot) :=
  if exchange.1.request.name = "JOB_LIST" then
    exchange.2.outcome.toOption.map fun _ => Poll.jobsOf exchange.2.rows
  else none

/-- A list of jobs or the progress of a job has been delivered in full. -/
def announces (exchange : Call × Answer) : Bool :=
  (exchange.1.request.name = "JOB_LIST" || exchange.1.request.name = "JOB_INFO") &&
    exchange.2.outcome.isOk

def storedOn (r : Roster) (exchange : Call × Answer) : Roster :=
  match listIn? exchange with
  | some jobs => r.replace jobs
  | none => (statusIn? exchange).elim r r.update

theorem statusIn?_statusCall (uuid : String) (answer : Answer) :
    statusIn? (statusCall uuid, answer) = toldJob? uuid answer := by
  change Option.filter _ _ = Option.filter _ _
  congr 1
  funext job
  exact decide_eq_decide.mpr ⟨fun same => (Option.some.inj same).symm, fun same => same ▸ rfl⟩

theorem announces_of_listIn? {exchange : Call × Answer} {jobs : List Snapshot}
    (list : listIn? exchange = some jobs) : announces exchange = true := by
  unfold listIn? at list
  split at list
  · rename_i name
    cases outcome : exchange.2.outcome with
    | error cause =>
      rw [outcome] at list
      cases list
    | ok done => simp [announces, name, outcome, Except.isOk, Except.toBool]
  · cases list

theorem storedOn_of_quiet {exchange : Call × Answer} (quiet : announces exchange ≠ true)
    (r : Roster) : storedOn r exchange = (statusIn? exchange).elim r r.update := by
  rw [storedOn]
  cases list : listIn? exchange with
  | none => rfl
  | some jobs => exact absurd (announces_of_listIn? list) quiet

theorem consistent_storedOn {r : Roster} (consistent : r.Consistent) (exchange : Call × Answer) :
    (storedOn r exchange).Consistent := by
  rw [storedOn]
  cases listIn? exchange with
  | some jobs => exact consistent.replace jobs
  | none =>
    cases statusIn? exchange with
    | some job => exact consistent.update job
    | none => exact consistent

structure Dealt (exchange : Call × Answer) (p q : Poll) : Prop where
  roster : q.board.roster = storedOn p.board.roster exchange
  told : ∃ news, q.events = p.events ++ news ∧
    (announces exchange = true → news.any Event.rereads = true)

section

variable {p q : Poll} {exchange : Call × Answer}

theorem dealt_other {call : Call} (list : call.request.name ≠ "JOB_LIST")
    (status : call.request.name ≠ "JOB_STATUS") (info : call.request.name ≠ "JOB_INFO")
    (answer : Answer) (roster : q.board.roster = p.board.roster)
    (events : ∃ news, q.events = p.events ++ news) : Dealt (call, answer) p q := by
  obtain ⟨news, told⟩ := events
  refine ⟨?_, news, told, ?_⟩
  · rw [roster, storedOn, listIn?, if_neg list, statusIn?, if_neg status]
    rfl
  · intro announced
    simp [announces, list, info] at announced

theorem dealt_command {call : Call} (command : polls call = false) (answer : Answer) (p : Poll) :
    Dealt (call, answer) p p := by
  have other {name : String} (mem : name ∈ pollNames) : call.request.name ≠ name :=
    name_ne_of_command command mem
  exact dealt_other (other (by decide)) (other (by decide)) (other (by decide)) answer rfl
    ⟨[], (List.append_nil _).symm⟩

theorem dealt_list (p : Poll) (answer : Answer) :
    Dealt (listCall, answer) p (p.filed answer .list) := by
  refine ⟨?_, _, rfl, ?_⟩
  all_goals
    simp only [Poll.filed, Board.filed, Poll.news, relisted, listNews, storedOn, listIn?, announces]
    cases answer.outcome with
    | error cause => simp [listCall, pollCall, Flight.request, Except.toOption, Except.isOk,
        Except.toBool, statusIn?]
    | ok done => simp [listCall, pollCall, Flight.request, Except.toOption, Event.rereads]

/-- What an answer tells is dealt with as it is filed, if progress is that of the selected job. -/
theorem dealt_filed (p : Poll) (answer : Answer) {query : Query}
    (own : ∀ uuid, query = .detail uuid → p.board.selected = some uuid) :
    Dealt (query.call, answer) p (p.filed answer query) := by
  cases query with
  | list => exact dealt_list p answer
  | state => exact dealt_other (by decide) (by decide) (by decide) answer rfl ⟨_, rfl⟩
  | schedules uuid =>
    exact dealt_other (by simp [Query.call, schedulesCall, pollCall, Flight.request])
      (by simp [Query.call, schedulesCall, pollCall, Flight.request])
      (by simp [Query.call, schedulesCall, pollCall, Flight.request]) answer rfl ⟨_, rfl⟩
  | status uuid =>
    have list : listIn? (statusCall uuid, answer) = none := rfl
    refine ⟨?_, _, rfl, ?_⟩
    · rw [Query.call, storedOn, list, statusIn?_statusCall]
      rfl
    · simp [announces, Query.call, statusCall, pollCall, Flight.request]
  | detail uuid =>
    refine ⟨rfl, _, rfl, fun announced => ?_⟩
    rw [Poll.news, toldDetail?, if_pos (own uuid rfl), Answer.merged]
    cases outcome : answer.outcome with
    | error cause => simp [announces, outcome, Except.isOk, Except.toBool] at announced
    | ok done => rfl

end

theorem selected_of_firstCall {p : Poll} {kind : Kind} {uuid : String}
    (first : p.firstCall kind = .waiting (.jobStatus uuid)) : p.board.selected = some uuid := by
  obtain rfl := Poll.kind_of_firstCall first
  simp only [Poll.firstCall, Flight.kind] at first
  split at first
  · cases first
    assumption
  · cases first

/-! ## Refreshes and orders -/

section

variable {J : Transcript → Poll → Prop}
  (freed : ∀ {heard p} busy, J heard p → J heard { p with busy })
  (dealt : ∀ {heard p q exchange}, J heard p → Dealt exchange p q → J (heard ++ [exchange]) q)

include freed dealt

theorem holds_refresh (kind : Kind) : (refresh kind).Holds J := by
  intro heard p holds
  rw [refresh_apply]
  rcases begins : p.begin? kind with ⟨progress, q⟩
  cases progress with
  | ended result =>
    obtain rfl := Poll.begin?_ended begins
    exact holds
  | waiting flight =>
    obtain ⟨first, _, rfl⟩ := Poll.begin?_waiting begins
    have started : J heard (p.occupy kind) := freed _ holds
    dsimp only
    rw [land_apply]
    refine ⟨started, fun answer => ?_⟩
    have other : ∀ uuid, flight.query ≠ .detail uuid := by
      cases flight <;> nofun
    have stored := dealt started
      (dealt_filed (p.occupy kind) answer fun uuid asks => absurd asks (other uuid))
    rw [flight.call_query] at stored
    dsimp only
    obtain ⟨result, _, lands⟩ | ⟨uuid, rfl, lands⟩ := (p.occupy kind).landed_receive flight answer
    · rw [lands]
      exact freed _ stored
    · rw [lands]
      refine ⟨stored, fun detail => ?_⟩
      have mine : ∀ other, Query.detail uuid = .detail other → p.board.selected = some other := by
        rintro other ⟨⟩
        exact selected_of_firstCall first
      dsimp only
      rw [Poll.receiveDetail_snd]
      exact freed _ (dealt stored
        (dealt_filed ((p.occupy kind).filed answer (.status uuid)) detail mine))

theorem holds_stateAndInfo : stateAndInfo.Holds J := by
  refine (holds_refresh freed dealt .runState).bind fun result => ?_
  cases result with
  | error stop => exact Script.holds_pure _
  | ok outcome => exact (holds_refresh freed dealt .jobInfo).bind fun _ => Script.holds_pure _

theorem holds_cycle (withJobList : Bool) : (cycle withJobList).Holds J := by
  intro heard p holds
  rw [cycle_apply]
  split
  · exact holds
  split
  · exact (holds_refresh freed dealt .jobList heard p holds).bind fun _ =>
      holds_stateAndInfo freed dealt
  · exact holds_stateAndInfo freed dealt heard p holds

omit freed in
theorem holds_sendAll {errands : List Errand}
    (commands : ∀ call ∈ errands.map Errand.call, polls call = false) :
    (sendAll errands).Holds J := by
  induction errands with
  | nil => exact Script.holds_pure _
  | cons errand rest ih =>
    obtain ⟨command, commands⟩ := List.forall_mem_cons.mp commands
    intro heard p holds
    rw [sendAll_cons]
    refine ⟨holds, fun answer => ?_⟩
    have next := dealt holds (dealt_command command answer p)
    dsimp only
    cases answer.merged with
    | error cause => exact next
    | ok row => exact ih commands _ p next

theorem holds_carryOut (order : Order) : order.carryOut.Holds J := by
  intro heard p holds
  have commands : ∀ call ∈ callsOf (order.plan p.board), polls call = false :=
    fun _ => polls_of_mem_commandsOf
  rw [carryOut_apply]
  cases planned : order.plan p.board with
  | error refusal => exact holds
  | ok plan =>
    rw [planned] at commands
    dsimp only
    split
    · exact holds
    refine (holds_sendAll dealt commands heard p holds).bind fun result => ?_
    cases result with
    | error refusal => exact Script.holds_pure _
    | ok done => exact (holds_cycle freed dealt true).bind fun _ => Script.holds_pure _

end

end Polling

end BackupConsole
