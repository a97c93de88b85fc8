import BackupConsole.Proofs.Polling.Session

set_option autoImplicit false

namespace BackupConsole.Polling

open Wire Step

def losses (results : List (Except Stop Unit)) : List Stop :=
  results.filterMap fun
    | .error (.runStateLost failures cause) => some (.runStateLost failures cause)
    | _ => none

theorem losses_append (results more : List (Except Stop Unit)) :
    losses (results ++ more) = losses results ++ losses more := List.filterMap_append

theorem losses_toList {value : Option (Except Stop Unit)}
    (refused : ∀ stop, value = some (.error stop) → stop = .terminated) :
    losses value.toList = [] := by
  cases value with
  | none => rfl
  | some result =>
    cases result with
    | ok done => rfl
    | error stop =>
      obtain rfl := refused stop rfl
      rfl

theorem eq_of_losses {value : Option (Except Stop Unit)} {stop : Stop}
    (lost : losses value.toList = [stop]) : value = some (.error stop) := by
  match value with
  | none | some (.ok _) | some (.error .alreadyStarted) | some (.error .terminated) => cases lost
  | some (.error (.runStateLost failures cause)) =>
    cases lost
    rfl

theorem losses_of_lost {value : Option (Except Stop Unit)} {lost : Option Stop}
    (stopped : ∀ cause, value = some (.error cause) ↔ lost = some cause)
    (isLoss : ∀ stop, lost = some stop → ∃ failures cause, stop = .runStateLost failures cause) :
    losses value.toList = lost.toList := by
  cases lost with
  | some stop =>
    obtain ⟨failures, cause, rfl⟩ := isLoss stop rfl
    rw [(stopped _).mpr rfl]
    rfl
  | none => exact losses_toList fun stop value => nomatch (stopped stop).mp value

/-- Polling knows what the readings so far amount to, and no more. -/
structure Heard (settings : Settings) (s : Session) : Prop where
  pulse : ∃ failures : UInt32, failures.toNat = failedAtEnd s.readings ∧
    s.poll.pulse =
      { settings
        runState := lastRead s.readings
        failures
        terminated := (loss? settings.threshold s.readings).isSome
        asking := s.asking }
  alone : s.asking ≤ if s.poll.terminated then 0 else 1
  beating : ∀ w ∈ s.waiting, w.Pieces Beat
  tolerated : ∀ earlier, earlier <+: s.readings → earlier ≠ s.readings →
    failedAtEnd earlier ≤ settings.threshold.toNat
  announced : fatals s.announced =
    (loss? settings.threshold s.readings).toList.map Stop.message
  shown :
    s.console.fatal = none ∧
        fatals s.poll.events = (loss? settings.threshold s.readings).toList.map Stop.message ∨
      s.console.fatal = (loss? settings.threshold s.readings).map Stop.message ∧
        fatals s.poll.events = []
  losses : losses s.results = (loss? settings.threshold s.readings).toList
  refused : ∀ stop, .error stop ∈ s.results → s.poll.terminated = true

namespace Heard

variable {settings : Settings} {s : Session}

theorem terminated (heard : Heard settings s) :
    s.poll.terminated = (loss? settings.threshold s.readings).isSome := by
  obtain ⟨failures, _, pulse⟩ := heard.pulse
  exact congrArg Pulse.terminated pulse

theorem new (key : SortKey) : Heard settings (Session.new settings key) := by
  refine ⟨⟨0, rfl, rfl⟩, Nat.zero_le _, ?_, ?_, rfl, .inl ⟨rfl, rfl⟩, rfl, ?_⟩
  · exact fun w mem => absurd mem List.not_mem_nil
  · exact fun earlier start other => absurd (List.prefix_nil.mp start) other
  · exact fun stop mem => absurd mem List.not_mem_nil

/-! ### Moves of the console -/

theorem congr (heard : Heard settings s) {console : Console}
    (pulse : console.poll.pulse = s.poll.pulse)
    (shown : console.fatal = none ∧ fatals console.poll.events =
          (loss? settings.threshold s.readings).toList.map Stop.message ∨
        console.fatal = (loss? settings.threshold s.readings).map Stop.message ∧
          fatals console.poll.events = []) : Heard settings { s with console } := by
  have terminated : console.poll.terminated = s.poll.terminated :=
    congrArg Pulse.terminated pulse
  obtain ⟨failures, count, known⟩ := heard.pulse
  refine { heard with pulse := ⟨failures, count, pulse.trans known⟩, alone := ?_, shown, refused := ?_ }
  · have alone := heard.alone
    rw [← terminated] at alone
    exact alone
  · intro stop mem
    exact terminated.trans (heard.refused stop mem)

theorem select (heard : Heard settings s) (uuid : Option String) :
    Heard settings (s.after (.select uuid)) := by
  refine heard.congr ?_ heard.shown
  simp only [Session.poll, Poll.pulse]
  unfold Board.select
  split <;> rfl

theorem setSort (heard : Heard settings s) (key : SortKey) :
    Heard settings (s.after (.setSort key)) := heard.congr rfl heard.shown

theorem next (heard : Heard settings s) : Heard settings (s.after .next) := by
  refine heard.congr ?_ ?_
  · rw [Console.poll_applyNext]
    rfl
  · have shown := heard.shown
    rw [Console.poll_applyNext, Console.fatal_applyNext]
    simp only [Session.poll] at shown
    cases events : s.console.poll.events with
    | nil =>
      rw [events] at shown
      exact shown
    | cons event rest =>
      rw [events] at shown
      cases tells : event.fatal? with
      | none => simpa [fatals, tells] using shown
      | some message =>
        cases lost : loss? settings.threshold s.readings <;> simp_all [fatals]

theorem pump (heard : Heard settings s) : Heard settings (s.after .pump) := by
  refine heard.congr ?_ (.inr ⟨?_, ?_⟩)
  · rw [Console.poll_pump]
    rfl
  · rw [Console.fatal_pump]
    obtain ⟨hidden, pending⟩ | ⟨shows, none⟩ := heard.shown
    · simp only [Session.poll] at pending
      rw [hidden, pending, Option.or_none]
      cases loss? settings.threshold s.readings <;> rfl
    · simp only [Session.poll] at none
      rw [none, shows]
      rfl
  · rw [Console.poll_pump]
    rfl

/-! ### Moves of the inquiries -/

section

variable {cue : Cue} {step : Step Poll (Except Stop Unit)}

theorem beating_worked (beating : ∀ w ∈ s.waiting, w.Pieces Beat)
    (waits : ∀ w, step.waiting? = some w → w.Pieces Beat) :
    ∀ w ∈ (s.worked step).waiting, w.Pieces Beat := by
  intro w mem
  obtain old | own := List.mem_append.mp mem
  · exact beating w old
  · exact waits w (Option.mem_toList.mp own)

theorem besides (heard : Heard settings s) (besides : Besides cue s.poll step)
    (waits : ∀ w, step.waiting? = some w → w.Pieces Beat) : Heard settings (s.worked step) := by
  have asking : (s.worked step).asking = s.asking := by
    rw [Session.asking_worked, if_neg besides.call]
    rfl
  have poll : (s.worked step).poll = step.state := rfl
  have terminated := besides.aside.terminated
  obtain ⟨news, events, quiet⟩ := besides.aside.news
  refine
    { pulse := ?pulse
      alone := ?alone
      beating := beating_worked heard.beating waits
      tolerated := heard.tolerated
      announced := ?announced
      shown := ?shown
      losses := ?losses
      refused := ?refused }
  case pulse =>
    rw [asking, poll, besides.aside.pulse]
    exact heard.pulse
  case alone =>
    rw [asking, poll, terminated]
    exact heard.alone
  case announced =>
    simp only [Session.worked]
    rw [events, List.drop_left, fatals_append, quiet, List.append_nil]
    exact heard.announced
  case shown =>
    rw [poll, events, fatals_append, quiet, List.append_nil]
    exact heard.shown
  case losses =>
    simp only [Session.worked]
    rw [losses_append, losses_toList fun stop value => (besides.refused stop value).1,
      List.append_nil]
    exact heard.losses
  case refused =>
    intro stop mem
    rw [poll, terminated]
    obtain old | own := List.mem_append.mp mem
    · exact heard.refused stop old
    · exact (besides.refused stop (Option.mem_toList.mp own)).2

theorem asks (heard : Heard settings s) (alive : s.poll.terminated = false)
    (free : s.poll.pulse.asking = 0) (aside : Aside (s.poll.occupy .runState) step.state)
    (call : step.call? = some stateCall) (waits : ∀ w, step.waiting? = some w → w.Pieces Beat) :
    Heard settings (s.worked step) := by
  have poll : (s.worked step).poll = step.state := rfl
  obtain ⟨failures, count, pulse⟩ := heard.pulse
  have none : s.asking = 0 := by
    rw [pulse] at free
    exact free
  have asking : (s.worked step).asking = 1 := by rw [Session.asking_worked, if_pos call, none]
  have ended : step.value? = .none := by
    cases step with
    | done value state => cases call
    | ask call state resume => rfl
  have terminated : step.state.terminated = s.poll.terminated := aside.terminated
  obtain ⟨news, events, quiet⟩ := aside.news
  refine
    { pulse := ⟨failures, count, ?pulse⟩
      alone := ?alone
      beating := beating_worked heard.beating waits
      tolerated := heard.tolerated
      announced := ?announced
      shown := ?shown
      losses := ?losses
      refused := ?refused }
  case pulse =>
    rw [asking, poll, aside.pulse, Poll.pulse_occupy, pulse]
    simp [none, Session.worked]
  case alone =>
    rw [asking, poll, terminated, alive]
    exact Nat.le_refl 1
  case announced =>
    simp only [Session.worked]
    rw [events, Poll.occupy, List.drop_left, fatals_append, quiet, List.append_nil]
    exact heard.announced
  case shown =>
    rw [poll, events, Poll.occupy, fatals_append, quiet, List.append_nil]
    exact heard.shown
  case losses =>
    simp only [Session.worked, ended]
    rw [losses_append]
    simpa [Polling.losses] using heard.losses
  case refused =>
    intro stop mem
    rw [poll, terminated]
    simp only [Session.worked, ended, Option.toList_none, List.append_nil] at mem
    exact heard.refused stop mem

/-- While a call for the run state waits, polling goes on and no other such call waits. -/
theorem expecting (heard : Heard settings s) {place : Nat} {w : Waiting Poll (Except Stop Unit)}
    (there : s.waiting[place]? = some w) (own : w.call = stateCall) (answer : Answer) :
    s.poll.terminated = false ∧ s.asking = 1 ∧ (s.heard place w.call answer).asking = 0 := by
  have before := s.asking_heard there answer
  rw [if_pos own] at before
  have alone := heard.alone
  cases stopped : s.poll.terminated with
  | true =>
    rw [stopped, if_pos rfl] at alone
    omega
  | false =>
    rw [stopped, if_neg Bool.false_ne_true] at alone
    exact ⟨rfl, by omega, by omega⟩

theorem tolerated_concat (heard : Heard settings s)
    (tolerated : failedAtEnd s.readings ≤ settings.threshold.toNat) (r : Reading) :
    ∀ earlier, earlier <+: s.readings ++ [r] → earlier ≠ s.readings ++ [r] →
      failedAtEnd earlier ≤ settings.threshold.toNat := by
  intro earlier start other
  obtain whole | start := List.prefix_concat_iff.mp start
  · exact absurd whole other
  by_cases all : earlier = s.readings
  · rw [all]
    exact tolerated
  · exact heard.tolerated earlier start all

theorem not_lost (heard : Heard settings s) (alive : s.poll.terminated = false) :
    loss? settings.threshold s.readings = none ∧
      failedAtEnd s.readings ≤ settings.threshold.toNat := by
  have none : loss? settings.threshold s.readings = none := by
    have same := heard.terminated
    rw [alive] at same
    exact Option.isSome_eq_false_iff.mp same.symm |> Option.isNone_iff_eq_none.mp
  exact ⟨none, loss?_eq_none_iff.mp none⟩

theorem told (heard : Heard settings s) (small : settings.threshold.toNat + 1 < UInt32.size)
    {place : Nat} {w : Waiting Poll (Except Stop Unit)} (there : s.waiting[place]? = some w)
    (own : w.call = stateCall) (answer : Answer)
    (aside : Aside (s.poll.receive .runState answer).2 step.state)
    (call : step.call? ≠ some stateCall)
    (stops : ∀ stop, step.value? = some (.error stop) ↔
      (s.poll.receiveRunState answer).1 = .error stop)
    (waits : ∀ w, step.waiting? = some w → w.Pieces Beat) :
    Heard settings ((s.heard place w.call answer).worked step) := by
  have poll : ((s.heard place w.call answer).worked step).poll = step.state := rfl
  have readings : ((s.heard place w.call answer).worked step).readings =
      s.readings ++ [reading answer] := by rw [Session.worked, Session.heard, if_pos own]
  obtain ⟨alive, one, zero⟩ := heard.expecting there own answer
  obtain ⟨nothing, tolerated⟩ := heard.not_lost alive
  have asking : ((s.heard place w.call answer).worked step).asking = 0 := by
    rw [Session.asking_worked, if_neg call, zero]
  obtain ⟨failures, count, known⟩ := heard.pulse
  have isSettings : s.poll.settings = settings := congrArg Pulse.settings known
  have isState : s.poll.board.runState = lastRead s.readings := congrArg Pulse.runState known
  have isFailures : s.poll.failures = failures := congrArg Pulse.failures known
  have isAsking : s.poll.pulse.asking = s.asking := congrArg Pulse.asking known
  -- What polling concludes from its counter is what the readings amount to.
  have stop := stop?_eq_loss? answer count tolerated small
  have pulse := Poll.pulse_receive_runState alive answer
  have received := Poll.receiveRunState_eq s.poll answer
  rw [Poll.filed_state _ _ alive] at received
  rw [isSettings, isFailures, stop, isState] at pulse received
  have terminated : step.state.terminated =
      (loss? settings.threshold (s.readings ++ [reading answer])).isSome := by
    rw [aside.terminated]
    exact congrArg Pulse.terminated pulse
  have stopped : ∀ cause, step.value? = some (.error cause) ↔
      loss? settings.threshold (s.readings ++ [reading answer]) = some cause := by
    intro cause
    rw [stops, received]
    cases loss? settings.threshold (s.readings ++ [reading answer]) <;> simp
  obtain ⟨news, events, quiet⟩ := aside.news
  have told : step.state.events =
      s.poll.events ++ (stateNews settings failures (lastRead s.readings) answer ++ news) := by
    rw [events, Poll.receive, Poll.finish, received, ← List.append_assoc]
    rfl
  have announces : fatals (stateNews settings failures (lastRead s.readings) answer ++ news) =
      (loss? settings.threshold (s.readings ++ [reading answer])).toList.map Stop.message := by
    rw [fatals_append, quiet, List.append_nil, fatals_stateNews, stop]
  refine
    { pulse := ⟨toldFailures answer failures, ?count, ?pulse⟩
      alone := ?alone
      beating := ?beating
      tolerated := ?tolerated
      announced := ?announced
      shown := ?shown
      losses := ?losses
      refused := ?refused }
  case count =>
    rw [readings]
    exact toldFailures_eq answer count tolerated small
  case pulse => rw [poll, aside.pulse, pulse, readings, lastRead_concat, asking, isAsking, one]
  case alone =>
    rw [asking]
    exact Nat.zero_le _
  case beating =>
    refine beating_worked ?_ waits
    exact fun w mem => heard.beating w (List.mem_of_mem_eraseIdx mem)
  case tolerated =>
    rw [readings]
    exact heard.tolerated_concat tolerated (reading answer)
  -- Nothing was lost before this answer, so what is lost now is all that is ever announced.
  case announced =>
    rw [readings, ← announces]
    have announced := heard.announced
    rw [nothing] at announced
    simp only [Session.worked, Session.heard, Session.poll] at announced told ⊢
    rw [told, List.drop_left, fatals_append, announced]
    rfl
  case shown =>
    have shown := heard.shown
    simp only [nothing, Option.toList_none, List.map_nil, Option.map_none, or_self] at shown
    refine .inl ⟨shown.1, ?_⟩
    rw [readings, poll, told, fatals_append, shown.2, announces]
    rfl
  case losses =>
    have losses := heard.losses
    rw [nothing] at losses
    rw [readings]
    simp only [Session.worked, Session.heard]
    rw [losses_append, losses, losses_of_lost stopped]
    · rfl
    · intro stop lost
      obtain ⟨cause, _, same⟩ := loss?_eq_some lost
      exact ⟨_, cause, same⟩
  case refused =>
    intro cause mem
    rw [poll, terminated]
    obtain old | own := List.mem_append.mp mem
    · exact absurd (heard.refused cause old) (by rw [alive]; decide)
    · rw [(stopped cause).mp (Option.mem_toList.mp own)]
      rfl

end

theorem begin (heard : Heard settings s) (inquiry : Inquiry) :
    Heard settings (s.after (.begin inquiry)) := by
  have pieces := inquiry.pieces_script s.poll
  have waits : ∀ w, (inquiry.script s.poll).waiting? = some w → w.Pieces Beat :=
    fun _ => pieces.waiting
  cases pieces.first with
  | besides besides => exact heard.besides besides waits
  | asks _ alive free aside call => exact heard.asks alive free aside call waits
  | told answer impossible => cases impossible

theorem other (heard : Heard settings s) {place : Nat} {w : Waiting Poll (Except Stop Unit)}
    (there : s.waiting[place]? = some w) (other : w.call ≠ stateCall) (answer : Answer) :
    Heard settings (s.heard place w.call answer) := by
  have readings : (s.heard place w.call answer).readings = s.readings := by
    rw [Session.heard, if_neg other]
    exact List.append_nil _
  have asking := s.asking_heard there answer
  rw [if_neg other, Nat.add_zero] at asking
  refine ⟨?_, ?_, ?_, ?_, ?_, ?_, ?_, heard.refused⟩
  · rw [readings, ← asking]
    exact heard.pulse
  · rw [← asking]
    exact heard.alone
  · exact fun w mem => heard.beating w (List.mem_of_mem_eraseIdx mem)
  · rw [readings]
    exact heard.tolerated
  · rw [readings]
    exact heard.announced
  · rw [readings]
    exact heard.shown
  · rw [readings]
    exact heard.losses

theorem answer (heard : Heard settings s) (small : settings.threshold.toNat + 1 < UInt32.size)
    (place : Nat) (answer : Answer) : Heard settings (s.after (.answer place answer)) := by
  simp only [Session.after]
  cases there : s.waiting[place]? with
  | none => exact heard
  | some w =>
    have pieces := heard.beating w (List.mem_of_getElem? there) answer s.poll
    have waits : ∀ v, (w.resume answer s.poll).waiting? = some v → v.Pieces Beat :=
      fun _ => pieces.waiting
    dsimp only
    cases pieces.first with
    | besides besides =>
      have other : w.call ≠ stateCall := by simpa using besides.cue
      exact (heard.other there other answer).besides besides waits
    | asks cue alive free aside call =>
      have other : w.call ≠ stateCall := by simpa using cue
      exact (heard.other there other answer).asks alive free aside call waits
    | told reply same aside call stops =>
      obtain ⟨own, rfl⟩ := Prod.mk.inj (Option.some.inj same)
      exact heard.told small there own answer aside call stops waits

theorem after (heard : Heard settings s) (small : settings.threshold.toNat + 1 < UInt32.size) :
    (move : Move) → Heard settings (s.after move)
  | .begin inquiry => heard.begin inquiry
  | .answer place answer => heard.answer small place answer
  | .select uuid => heard.select uuid
  | .setSort key => heard.setSort key
  | .next => heard.next
  | .pump => heard.pump

theorem run (heard : Heard settings s) (small : settings.threshold.toNat + 1 < UInt32.size)
    (moves : List Move) : Heard settings (s.run moves) := by
  induction moves generalizing s with
  | nil => exact heard
  | cons move moves ih => exact ih (heard.after small move)

end Heard

end BackupConsole.Polling
