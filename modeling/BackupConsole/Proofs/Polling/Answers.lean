import BackupConsole.Proofs.Polling.Pieces

set_option autoImplicit false

namespace BackupConsole

open Job Wire Step

namespace Polling

def Query.call : Query → Call
  | .list => listCall
  | .state => stateCall
  | .status uuid => statusCall uuid
  | .detail uuid => detailCall uuid
  | .schedules uuid => schedulesCall uuid

def Query.kind : Query → Kind
  | .list => .jobList
  | .state => .runState
  | .status _ | .detail _ => .jobInfo
  | .schedules _ => .schedules

def Flight.query : Flight → Query
  | .jobList => .list
  | .runState => .state
  | .jobStatus uuid => .status uuid
  | .schedules uuid => .schedules uuid

theorem Flight.call_query (flight : Flight) : flight.query.call = pollCall flight.request := by
  cases flight <;> rfl

namespace Poll

section

variable (p : Poll) (answer : Answer)

inductive Announced : Query → Event → Prop where
  | jobs : Announced .list .jobs
  | runState (state : RunState) : Announced .state (.runState state)
  | fatal (message : String) : Announced .state (.fatal message)
  | jobInfo (uuid : String) (selected : p.board.selected = some uuid) :
    Announced (.detail uuid) (.jobInfo uuid)
  | schedules (uuid : String) (selected : p.board.selected = some uuid) :
    Announced (.schedules uuid) (.schedules uuid)

theorem announced_of_mem_news {query : Query} {event : Event} (mem : event ∈ p.news answer query) :
    p.Announced query event := by
  cases query with
  | list =>
    simp only [news, listNews] at mem
    cases outcome : answer.outcome with
    | error cause =>
      rw [outcome] at mem
      cases mem
    | ok done =>
      rw [outcome] at mem
      obtain rfl := List.mem_singleton.mp mem
      exact .jobs
  | state =>
    have stated := List.mem_of_mem_filter mem
    unfold stateNews at stated
    split at stated
    · split at stated
      · obtain rfl := List.mem_singleton.mp stated
        exact .runState _
      · cases stated
    · obtain ⟨stop, _, rfl⟩ := List.mem_map.mp stated
      exact .fatal _
  | status uuid => cases mem
  | detail uuid =>
    obtain ⟨detail, told, rfl⟩ := List.mem_map.mp mem
    obtain ⟨selected, row, _, rfl⟩ := toldDetail?_eq_some (Option.mem_toList.mp told)
    exact .jobInfo uuid selected
  | schedules uuid =>
    obtain ⟨schedules, told, rfl⟩ := List.mem_map.mp mem
    exact .schedules uuid (toldSchedules?_eq_some (Option.mem_toList.mp told)).1

inductive Ended : Query → Result → Prop where
  | done (query : Query) (outcome : Outcome) (ran : outcome ≠ .coalesced) :
    Ended query (.ok outcome)
  | lost (stop : Stop) : Ended .state (.error stop)

theorem ended_receiveRunState : Ended .state (p.receiveRunState answer).1 := by
  rw [receiveRunState_eq]
  cases stop? p.settings p.failures answer with
  | some stop => exact .lost stop
  | none => exact .done .state _ (by split <;> decide)

end

/-- The answer to the first call of a refresh ends it, or is followed by the call for the progress of
the job. -/
theorem landed_receive (p : Poll) (flight : Flight) (answer : Answer) :
    (∃ result, Ended flight.query result ∧ landed (p.receive flight answer) =
      .done result ((p.filed answer flight.query).release flight.kind)) ∨
    ∃ uuid, flight = .jobStatus uuid ∧ landed (p.receive flight answer) =
      .ask (detailCall uuid) (p.filed answer (.status uuid)) fun answer p =>
        .done (p.receiveDetail uuid answer).1 (p.receiveDetail uuid answer).2 := by
  cases flight with
  | jobList =>
    obtain ⟨outcome, ran, stored⟩ := p.receiveJobs_eq answer
    exact .inl ⟨.ok outcome, .done _ _ ran, by rw [receive, finish, stored]; rfl⟩
  | schedules uuid =>
    obtain ⟨outcome, ran, stored⟩ := p.receiveSchedules_eq answer uuid
    exact .inl ⟨.ok outcome, .done _ _ ran, by rw [receive, finish, stored]; rfl⟩
  | runState =>
    refine .inl ⟨_, p.ended_receiveRunState answer, ?_⟩
    rw [receive, finish, receiveRunState_eq]
    rfl
  | jobStatus uuid =>
    rw [receive, receiveStatus_eq]
    cases (decoded Snapshot.ofFields answer).isOk with
    | true => exact .inr ⟨uuid, rfl, rfl⟩
    | false => exact .inl ⟨.ok .failed, .done _ _ (by decide), rfl⟩

theorem receive_snd (p : Poll) (flight : Flight) (answer : Answer) :
    ∃ busy, (p.receive flight answer).2 = { p.filed answer flight.query with busy } := by
  rw [← state_landed]
  obtain ⟨result, _, lands⟩ | ⟨uuid, rfl, lands⟩ := p.landed_receive flight answer
  · exact ⟨_, congrArg Step.state lands⟩
  · exact ⟨p.busy, congrArg Step.state lands⟩

end Poll

end Polling

end BackupConsole
