import BackupConsole.Proofs.Polling.Hearing

/-!
# Losing the server

Cycles and refreshes that overlap in any way stop polling as soon as more readings of the run state
in a row have failed than are tolerated, and not before.
-/

set_option autoImplicit false

namespace BackupConsole.Polling

open Wire Step

namespace Heard

variable {settings : Settings} {s : Session}

theorem readings_after (heard : Heard settings s) (terminated : s.poll.terminated = true)
    (move : Move) : (s.after move).readings = s.readings := by
  cases move with
  | answer place answer =>
    simp only [Session.after]
    cases there : s.waiting[place]? with
    | none => rfl
    | some w =>
      have other : w.call ≠ stateCall := by
        intro own
        have alive := (heard.expecting there own answer).1
        rw [terminated] at alive
        cases alive
      simp [Session.worked, Session.heard, other]
  | begin _ | select _ | setSort _ | next | pump => rfl

theorem readings_run (heard : Heard settings s) (small : settings.threshold.toNat + 1 < UInt32.size)
    (terminated : s.poll.terminated = true) (moves : List Move) :
    (s.run moves).readings = s.readings := by
  induction moves generalizing s with
  | nil => rfl
  | cons move moves ih =>
    have same := heard.readings_after terminated move
    have later := heard.after small move
    have still : (s.after move).poll.terminated = true := by
      rw [later.terminated, same, ← heard.terminated, terminated]
    exact (ih later still).trans same

end Heard

namespace Session

/-- Polling has stopped at the first moment, if any, at which more readings in a row have failed than
are tolerated, and for good. -/
structure Judged (settings : Settings) (s : Session) : Prop where
  terminated : s.poll.terminated = true ↔ LastFailed (settings.threshold.toNat + 1) s.readings
  first : ∀ earlier, earlier <+: s.readings →
    LastFailed (settings.threshold.toNat + 1) earlier → earlier = s.readings
  runState : s.poll.board.runState = lastRead s.readings
  absorbed : s.poll.terminated = false →
    (∀ result ∈ s.results, result = .ok ()) ∧ fatals s.announced = [] ∧ s.console.fatal = none
  /-- The inquiry that is told of the last failure returns it, and it is announced. -/
  moment : ∀ move, s.poll.terminated = false → (s.after move).poll.terminated = true →
    ∃ cause, (s.after move).readings = s.readings ++ [.error cause] ∧
      (s.after move).results =
        s.results ++ [.error (.runStateLost (settings.threshold + 1) cause)] ∧
      fatals (s.after move).announced =
        [(Stop.runStateLost (settings.threshold + 1) cause).message]
  once : s.poll.terminated = true → ∃ cause, s.readings.getLast? = some (.error cause) ∧
    losses s.results = [.runStateLost (settings.threshold + 1) cause] ∧
    fatals s.announced = [(Stop.runStateLost (settings.threshold + 1) cause).message] ∧
    (s.after .pump).console.fatal =
      some (Stop.runStateLost (settings.threshold + 1) cause).message
  refused : s.poll.terminated = true → ∀ inquiry, inquiry.readsState = true →
    s.after (.begin inquiry) = { s with results := s.results ++ [.error .terminated] }
  forever : s.poll.terminated = true → ∀ moves, (s.run moves).poll.terminated = true ∧
    (s.run moves).readings = s.readings ∧ (s.run moves).poll.board.runState = s.poll.board.runState
  shown : ∀ message, s.console.fatal = some message →
    ∀ moves, (s.run moves).console.fatal = some message

variable {settings : Settings} {s : Session}

theorem terminated_iff (heard : Heard settings s) :
    s.poll.terminated = true ↔ LastFailed (settings.threshold.toNat + 1) s.readings := by
  rw [heard.terminated, loss?_isSome, decide_eq_true_iff, lastFailed_iff, Nat.lt_iff_add_one_le]

theorem runState_of_heard (heard : Heard settings s) :
    s.poll.board.runState = lastRead s.readings := by
  obtain ⟨failures, _, pulse⟩ := heard.pulse
  exact congrArg Pulse.runState pulse

theorem results_of_heard (heard : Heard settings s) (alive : s.poll.terminated = false) :
    ∀ result ∈ s.results, result = .ok () := by
  intro result mem
  cases result with
  | ok done => rfl
  | error stop =>
    have stopped := heard.refused stop mem
    rw [alive] at stopped
    cases stopped

theorem moment_of_heard (heard : Heard settings s) (small : settings.threshold.toNat + 1 < UInt32.size)
    (move : Move) (alive : s.poll.terminated = false)
    (terminated : (s.after move).poll.terminated = true) :
    ∃ cause, (s.after move).readings = s.readings ++ [.error cause] ∧
      (s.after move).results =
        s.results ++ [.error (.runStateLost (settings.threshold + 1) cause)] ∧
      fatals (s.after move).announced =
        [(Stop.runStateLost (settings.threshold + 1) cause).message] := by
  have later := heard.after small move
  have before := (heard.not_lost alive).1
  have lost := later.terminated
  rw [terminated] at lost
  obtain ⟨stop, stops⟩ := Option.isSome_iff_exists.mp lost.symm
  obtain ⟨cause, last, rfl⟩ := loss?_eq_some stops
  have losses := later.losses
  have announced := later.announced
  rw [stops] at losses announced
  obtain ⟨r, readings⟩ := s.readings_after move
  obtain ⟨result, results⟩ := s.results_after move
  refine ⟨cause, ?_, ?_, announced⟩
  · cases r with
    | none =>
      rw [readings, Option.toList_none, List.append_nil, before] at stops
      cases stops
    | some r =>
      rw [readings, Option.toList_some, List.getLast?_concat] at last
      obtain rfl := Option.some.inj last
      exact readings
  · have none := heard.losses
    rw [before] at none
    rw [results, losses_append, none] at losses
    rw [results, eq_of_losses losses]
    rfl

theorem once_of_heard (heard : Heard settings s) (terminated : s.poll.terminated = true) :
    ∃ cause, s.readings.getLast? = some (.error cause) ∧
      losses s.results = [.runStateLost (settings.threshold + 1) cause] ∧
      fatals s.announced = [(Stop.runStateLost (settings.threshold + 1) cause).message] ∧
      (s.after .pump).console.fatal =
        some (Stop.runStateLost (settings.threshold + 1) cause).message := by
  have lost := heard.terminated
  rw [terminated] at lost
  obtain ⟨stop, stops⟩ := Option.isSome_iff_exists.mp lost.symm
  obtain ⟨cause, last, rfl⟩ := loss?_eq_some stops
  have losses := heard.losses
  have announced := heard.announced
  have shown := heard.shown
  rw [stops] at losses announced shown
  refine ⟨cause, last, losses, announced, ?_⟩
  have fatal := s.console.fatal_pump
  simp only [after]
  simp only [poll] at shown
  obtain ⟨hidden, pending⟩ | ⟨shows, none⟩ := shown
  · rw [fatal, pending, hidden]
    rfl
  · rw [fatal, none, shows]
    rfl

theorem shown_of_heard (heard : Heard settings s) (small : settings.threshold.toNat + 1 < UInt32.size)
    {message : String} (shown : s.console.fatal = some message) (moves : List Move) :
    (s.run moves).console.fatal = some message := by
  have now : (loss? settings.threshold s.readings).map Stop.message = some message := by
    obtain ⟨hidden, _⟩ | ⟨shows, _⟩ := heard.shown
    · rw [hidden] at shown
      cases shown
    · exact shows.symm.trans shown
  have terminated : s.poll.terminated = true := by
    rw [heard.terminated, ← Option.isSome_map (f := Stop.message), now]
    rfl
  have later := (heard.run small moves).shown
  rw [heard.readings_run small terminated moves, now] at later
  obtain ⟨hidden, _⟩ | ⟨shows, _⟩ := later
  · have still := s.fatal_run moves (by rw [shown]; rfl)
    rw [hidden] at still
    cases still
  · exact shows

theorem judged_of_heard (heard : Heard settings s) (small : settings.threshold.toNat + 1 < UInt32.size) :
    Judged settings s where
  terminated := terminated_iff heard
  first := by
    intro earlier start failed
    by_contra proper
    have few := heard.tolerated earlier start proper
    rw [lastFailed_iff] at failed
    omega
  runState := runState_of_heard heard
  absorbed := by
    intro alive
    have nothing := (heard.not_lost alive).1
    have announced := heard.announced
    have shown := heard.shown
    rw [nothing] at announced shown
    exact ⟨results_of_heard heard alive, announced, shown.elim And.left And.left⟩
  moment := moment_of_heard heard small
  once := once_of_heard heard
  refused := by
    intro terminated inquiry reads
    rw [after, inquiry.script_terminated reads terminated, worked_done]
  forever := by
    intro terminated moves
    have readings := heard.readings_run small terminated moves
    have later := heard.run small moves
    refine ⟨?_, readings, ?_⟩
    · rw [later.terminated, readings, ← heard.terminated, terminated]
    · rw [runState_of_heard later, runState_of_heard heard, readings]
  shown := fun _ shown => shown_of_heard heard small shown

/-- In every session, whatever cycles and refreshes are begun, in whatever order their calls are
answered and whatever the user selects meanwhile, polling stops with the server being lost and at no
other time. -/
theorem run_judged (settings : Settings) (small : settings.threshold.toNat + 1 < UInt32.size)
    (key : SortKey) (moves : List Move) : Judged settings ((new settings key).run moves) :=
  judged_of_heard ((Heard.new key).run small moves) small

/-- Where no failure is tolerated, the first one stops polling. -/
theorem judged_first_failure :
    let settings : Settings := { threshold := 0 }
    let gone : Failure := .connection "reset by peer"
    let s := (new settings .name).run
      [.begin (.cycle true), .answer 0 {}, .answer 0 (.failed gone), .begin (.refresh .runState)]
    settings.threshold.toNat + 1 < UInt32.size ∧ s.poll.terminated = true ∧
      s.results = [.error (.runStateLost 1 gone), .error .terminated] ∧ Judged settings s := by
  intro settings gone s
  exact ⟨by decide, rfl, rfl, run_judged settings (by decide) .name _⟩

end Session

end BackupConsole.Polling
