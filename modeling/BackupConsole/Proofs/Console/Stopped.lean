import BackupConsole.Proofs.Console.Operation

set_option autoImplicit false

namespace BackupConsole

open Wire Polling Step

namespace Operation

/-- What an operation itself has to do with the selection. -/
def choice (op : Operation) (c : Console) : Console :=
  match op with
  | .select uuid => c.selecting uuid
  | _ => c

/-- The job, other than the selected one, that an operation chooses. -/
def other? (op : Operation) (c : Console) : Option String :=
  match op with
  | .select uuid => if c.board.selected = uuid then none else uuid
  | _ => none

/-- Polling is left alone: nothing is asked for that keeps the board up to date, and the board is as
the choice of the operation and polling in the background have left it. -/
structure Refused (op : Operation) (server : Responses) (c : Console) : Prop where
  calls : ∀ call ∈ (op.perform server c).2, polls call = false
  board : (op.perform server c).1.board =
    ((op.choice c).poll.strides (overheard server [] (op.perform server c).2)).board

end Operation

namespace Console

variable {c : Console}

theorem cycle_terminated {p : Poll} (terminated : p.terminated = true) (withJobList : Bool) :
    Polling.cycle withJobList p = .done (.error .terminated) p := by
  rw [cycle_apply, if_pos terminated]

theorem polling_cycle_terminated (terminated : c.poll.terminated = true) (withJobList : Bool) :
    polling (Polling.cycle withJobList) c = .done (.error .terminated) c := by
  rw [polling, Script.within, cycle_terminated terminated]
  rfl

theorem refresh_terminated (terminated : c.poll.terminated = true) :
    Console.refresh c = .done (.error .terminated) c.pump.2 := by
  rw [Console.refresh, Script.bind_apply, refreshAll, polling_cycle_terminated terminated]
  rfl

theorem loopCycle_terminated (terminated : c.poll.terminated = true) (number : UInt64) (wait : Nat) :
    loopCycle number wait c = .done () { c with loop := none } := by
  rw [loopCycle, Script.bind_apply, Script.get, Step.bind, Script.bind_apply,
    polling_cycle_terminated terminated]
  rfl

theorem elapseWithin_of_no_loop (none : c.loop = none) (fuel time : Nat) :
    elapseWithin fuel time c = .done () c := by
  cases fuel with
  | zero => rfl
  | succ fuel =>
    rw [elapseWithin, Script.bind_apply, Script.get, Step.bind, none]
    rfl

theorem elapse_terminated (terminated : c.poll.terminated = true) (time : Nat) :
    ∃ loop, Console.elapse time c = .done () { c with loop } := by
  rw [Console.elapse, elapseWithin, Script.bind_apply, Script.get, Step.bind]
  cases c.loop with
  | none => exact ⟨c.loop, rfl⟩
  | some loop =>
    dsimp only
    split
    · exact ⟨_, rfl⟩
    · -- The next cycle is refused and ends the loop, whatever time is left.
      refine ⟨none, ?_⟩
      rw [Script.bind_apply, loopCycle_terminated terminated, Step.bind,
        elapseWithin_of_no_loop rfl]

theorem run_carryOut_terminated (terminated : c.poll.terminated = true) (order : Order)
    (server : Responses) :
    ∃ result more, (Console.carryOut order c).runWith (serving onPoll server) [] =
      (result, c.onPoll fun p => p.strides (overheard server [] more), more) ∧
      more <+: commandsOf c.board order := by
  rw [Console.carryOut, run_polling, carryOut_apply, commandsOf, board]
  cases order.plan c.poll.board with
  | error refusal => exact ⟨.error refusal, [], rfl, List.nil_prefix⟩
  | ok plan =>
    dsimp only
    split
    · exact ⟨.ok plan.effect, [], rfl, List.nil_prefix⟩
    -- Polling in the background may go on while the commands are sent, but it stays stopped, so the
    -- refresh after them is refused.
    obtain ⟨result, more, ran, start⟩ := run_sendAll plan.errands server c.poll []
    have still : (c.poll.strides (overheard server [] more)).terminated = true :=
      (Poll.Moved.strides c.poll _).terminated terminated
    rw [runWith_bind, ran]
    cases result with
    | error refusal => exact ⟨.error refusal, more, rfl, start⟩
    | ok done =>
      refine ⟨.ok plan.effect, more, ?_, start⟩
      dsimp only
      rw [afterCommands, Script.bind_apply, refreshAll, cycle_terminated still]
      rfl

end Console

namespace Operation

variable {c : Console} {op : Operation}

theorem terminated_pump (terminated : c.poll.terminated = true) :
    c.pump.2.poll.terminated = true := by
  rw [c.poll_pump]
  exact terminated

theorem perform_select (uuid : Option String) (server : Responses) :
    (select uuid).perform server c =
      if c.board.selected = uuid then (c, [])
      else if uuid.isSome then
        ((Console.fetched server (c.selecting uuid) []).1.pump.2,
          (Console.fetched server (c.selecting uuid) []).2)
      else ((c.selecting uuid).pump.2, []) := by
  rw [perform, script, Script.bind_apply, runWith_bind, Console.run_select]
  by_cases same : c.board.selected = uuid
  · rw [if_pos same, if_pos same]
    rfl
  · rw [if_neg same, if_neg same]
    cases uuid <;> rfl

theorem script_terminated (terminated : c.poll.terminated = true) (none : op.other? c = none)
    (noOrder : ∀ order, op ≠ .carryOut order) :
    ∃ next, op.script c = .done () next ∧ next.board = (op.choice c).board ∧
      next.poll.terminated = true := by
  cases op with
  | refresh =>
    refine ⟨c.pump.2, ?_, c.board_pump, terminated_pump terminated⟩
    rw [script, Script.bind_apply, Console.refresh_terminated terminated]
    rfl
  | cycle withJobList =>
    refine ⟨c, ?_, rfl, terminated⟩
    rw [script, Script.bind_apply, Console.polling_cycle_terminated terminated]
    rfl
  | elapse time =>
    obtain ⟨loop, elapsed⟩ := Console.elapse_terminated terminated time
    exact ⟨{ c with loop }, elapsed, rfl, terminated⟩
  | select uuid =>
    rw [other?] at none
    rw [script, Script.bind_apply, Console.select_apply]
    by_cases same : c.board.selected = uuid
    · refine ⟨c, by rw [if_pos same]; rfl, ?_, terminated⟩
      have stays : c.poll.board.select uuid = (false, c.poll.board) := if_pos same
      simp only [choice, Console.selecting, Console.onPoll, Console.board, stays]
    · rw [if_neg same] at none
      subst none
      refine ⟨(c.selecting .none).pump.2, by rw [if_neg same]; rfl, Console.board_pump _, ?_⟩
      exact terminated_pump terminated
  | carryOut order => exact absurd rfl (noOrder order)
  | pump => exact ⟨_, rfl, c.board_pump, terminated_pump terminated⟩
  | next =>
    refine ⟨_, rfl, ?_, ?_⟩
    · rw [Console.board, c.poll_applyNext]
      rfl
    · rw [c.poll_applyNext]
      exact terminated
  | start =>
    refine ⟨c.start.2, rfl, ?_, ?_⟩
    · unfold Console.start
      split <;> rfl
    · unfold Console.start
      split <;> exact terminated
  | setSort _ | stop | subscribe _ | unsubscribe _ => exact ⟨_, rfl, rfl, terminated⟩

theorem perform_carryOut (terminated : c.poll.terminated = true) (order : Order)
    (server : Responses) :
    ∃ more, (carryOut order).perform server c =
      (c.onPoll fun p => p.strides (overheard server [] more), more) ∧
      more <+: commandsOf c.board order := by
  obtain ⟨result, more, ran, start⟩ := Console.run_carryOut_terminated terminated order server
  refine ⟨more, ?_, start⟩
  rw [perform, script, Script.bind_apply, runWith_bind, ran]
  rfl

theorem refused_of_other?_eq_none (terminated : c.poll.terminated = true)
    (none : op.other? c = none) (server : Responses) : op.Refused server c := by
  by_cases order : ∃ order, op = .carryOut order
  · obtain ⟨order, rfl⟩ := order
    obtain ⟨more, performed, start⟩ := perform_carryOut terminated order server
    refine ⟨?_, ?_⟩
    · rw [performed]
      exact fun call mem => polls_of_mem_commandsOf (start.subset mem)
    · rw [performed]
      rfl
  · obtain ⟨next, ends, board, _⟩ :=
      script_terminated terminated none fun o same => order ⟨o, same⟩
    have performed : op.perform server c = (next, []) := by rw [perform, ends]; rfl
    refine ⟨?_, ?_⟩
    · rw [performed]
      exact fun _ mem => nomatch mem
    · rw [performed]
      exact board

theorem other?_eq_some {uuid : String} (other : op.other? c = some uuid) :
    op = .select (some uuid) ∧ c.board.selected ≠ some uuid := by
  cases op with
  | select chosen =>
    rw [other?] at other
    split at other
    · cases other
    · subst other
      exact ⟨rfl, by assumption⟩
  | _ => cases other

theorem perform_other {uuid : String} (other : op.other? c = some uuid) (server : Responses) :
    op.perform server c =
      ((Console.fetched server (c.selecting (some uuid)) []).1.pump.2,
        (Console.fetched server (c.selecting (some uuid)) []).2) := by
  obtain ⟨rfl, ne⟩ := other?_eq_some other
  rw [perform_select, if_neg ne]
  rfl

theorem head?_perform_other {uuid : String} (other : op.other? c = some uuid)
    (server : Responses) :
    (op.perform server c).2.head? = Console.firstFetched? c.poll uuid := by
  rw [perform_other other, Console.fetched, head?_run,
    Console.call?_fetch (Board.selected_select c.poll.board (some uuid))]
  rfl

theorem refused_of_busy {uuid : String} (other : op.other? c = some uuid)
    (schedules : c.poll.isBusy .schedules = true) (jobInfo : c.poll.isBusy .jobInfo = true)
    (server : Responses) : op.Refused server c := by
  have performed := perform_other other server
  rw [Console.fetched, Console.fetch_of_busy (Board.selected_select c.poll.board (some uuid))
    (by exact schedules) (by exact jobInfo)] at performed
  obtain ⟨rfl, _⟩ := other?_eq_some other
  refine ⟨?_, ?_⟩
  · rw [performed]
    exact fun _ mem => nomatch mem
  · rw [performed]
    exact Console.board_pump _

theorem not_refused_of_free {uuid : String} (other : op.other? c = some uuid)
    (free : ¬(c.poll.isBusy .schedules = true ∧ c.poll.isBusy .jobInfo = true))
    (server : Responses) : ¬op.Refused server c := by
  intro refused
  -- The first call alone shows it; what the server answers does not matter.
  have first := head?_perform_other other server
  obtain ⟨call, asked, isPoll⟩ : ∃ call, Console.firstFetched? c.poll uuid = some call ∧
      polls call = true := by
    unfold Console.firstFetched?
    split
    · split
      · exact absurd ⟨by assumption, by assumption⟩ free
      · exact ⟨_, rfl, rfl⟩
    · exact ⟨_, rfl, rfl⟩
  rw [asked] at first
  have quiet := refused.calls call (List.mem_of_head? first)
  rw [isPoll] at quiet
  cases quiet

theorem terminated_perform (terminated : c.poll.terminated = true) (op : Operation)
    (server : Responses) : (op.perform server c).1.poll.terminated = true := by
  cases other : op.other? c with
  | some uuid =>
    rw [perform_other other]
    apply terminated_pump
    exact (moved_run (Console.pieces_steady_fetch _) server []).terminated terminated
  | none =>
    by_cases order : ∃ order, op = .carryOut order
    · obtain ⟨order, rfl⟩ := order
      obtain ⟨more, performed, start⟩ := perform_carryOut terminated order server
      rw [performed]
      exact (Poll.Moved.strides c.poll _).terminated terminated
    · obtain ⟨next, ends, _, still⟩ :=
        script_terminated terminated other fun o same => order ⟨o, same⟩
      rw [perform, ends]
      exact still

end Operation

def Console.performAll (c : Console) (operations : List (Operation × Responses)) : Console :=
  operations.foldl (fun c operation => (operation.1.perform operation.2 c).1) c

theorem Console.terminated_performAll {c : Console} (terminated : c.poll.terminated = true)
    (operations : List (Operation × Responses)) : (c.performAll operations).poll.terminated = true := by
  induction operations generalizing c with
  | nil => exact terminated
  | cons operation rest ih => exact ih (operation.1.terminated_perform terminated operation.2)

/-- Once polling has stopped for good it stays so, and every later operation leaves it alone, but for
the choice of another job: that asks for the schedules of the job, or for its progress if its
schedules are asked for already, and leaves polling alone only while both are under way. -/
theorem Operation.refused_iff_after_stop (c : Console) (terminated : c.poll.terminated = true)
    (later : List (Operation × Responses)) (op : Operation) (server : Responses) :
    let now := c.performAll later
    now.poll.terminated = true ∧
      (op.Refused server now ↔ op.other? now = none ∨
        now.poll.isBusy .schedules = true ∧ now.poll.isBusy .jobInfo = true) ∧
      ∀ uuid, op.other? now = some uuid →
        (op.perform server now).2.head? = Console.firstFetched? now.poll uuid := by
  intro now
  have still : now.poll.terminated = true := Console.terminated_performAll terminated later
  refine ⟨still, ?_, fun uuid other => op.head?_perform_other other server⟩
  constructor
  · intro refused
    cases other : op.other? now with
    | none => exact .inl rfl
    | some uuid =>
      by_contra free
      exact not_refused_of_free other (fun busy => free (.inr busy)) server refused
  · rintro (none | ⟨schedules, jobInfo⟩)
    · exact refused_of_other?_eq_none still none server
    · cases other : op.other? now with
      | none => exact refused_of_other?_eq_none still other server
      | some uuid => exact refused_of_busy other schedules jobInfo server

def stateless : Responses := fun _ call =>
  if call = stateCall then { answer := .failed (.connection "reset by peer") }
  else { answer := { rows := [.ofPairs [("jobUUID", "a"), ("name", "alpha")]] } }

/-- A console that tolerates no failure, after its first refresh. -/
def lostConsole : Console :=
  (Console.new { threshold := 0 } .name).performAll [(.refresh, stateless)]

theorem terminated_lostConsole : lostConsole.poll.terminated = true := by decide +kernel

/-- A refresh is refused after a loss, though a job has been chosen since. -/
theorem refresh_refused_after_choice :
    lostConsole.poll.terminated = true ∧
      Operation.refresh.Refused stateless
        (lostConsole.performAll [(.select (some "a"), stateless)]) := by
  have after := Operation.refused_iff_after_stop lostConsole (by decide +kernel)
    [(.select (some "a"), stateless)] .refresh stateless
  exact ⟨terminated_lostConsole, after.2.1.mpr (.inl rfl)⟩

/-- The choice of a job after a loss asks for all about that job, and the board changes with what is
told. -/
theorem select_polls_after_loss :
    lostConsole.poll.terminated = true ∧
      ¬(Operation.select (some "a")).Refused stateless lostConsole ∧
      ((Operation.select (some "a")).perform stateless lostConsole).2.map
          (fun call => call.request.name) = ["SCHEDULE_LIST", "JOB_STATUS", "JOB_INFO"] ∧
      lostConsole.board.detail = none ∧
      ((Operation.select (some "a")).perform stateless lostConsole).1.board.detail.isSome =
        true := by
  have free : ¬(lostConsole.poll.isBusy .schedules = true ∧
      lostConsole.poll.isBusy .jobInfo = true) := by decide +kernel
  have other : (Operation.select (some "a")).other? lostConsole = some "a" := by decide +kernel
  refine ⟨terminated_lostConsole, Operation.not_refused_of_free other free stateless, ?_, ?_, ?_⟩
  · decide +kernel
  · decide +kernel
  · decide +kernel

end BackupConsole
