import BackupConsole.Proofs.Polling.Answers

set_option autoImplicit false

namespace BackupConsole

open Wire Step

namespace Polling

/-- What polling knows of the run state of the server. -/
structure Pulse where
  settings : Settings
  runState : RunState
  failures : UInt32
  terminated : Bool
  asking : Nat

def Poll.pulse (p : Poll) : Pulse where
  settings := p.settings
  runState := p.board.runState
  failures := p.failures
  terminated := p.terminated
  asking := p.busy.count .runState

theorem Poll.pulse_occupy (p : Poll) (kind : Kind) :
    (p.occupy kind).pulse =
      { p.pulse with asking := p.pulse.asking + if kind = .runState then 1 else 0 } := by
  simp [pulse, occupy, List.count_cons]

def fatals (events : List Event) : List String := events.filterMap Event.fatal?

theorem fatals_append (events more : List Event) :
    fatals (events ++ more) = fatals events ++ fatals more := List.filterMap_append

/-- From `p` to `q` nothing has become of the run state. -/
structure Aside (p q : Poll) : Prop where
  pulse : q.pulse = p.pulse
  news : ∃ news, q.events = p.events ++ news ∧ fatals news = []

namespace Aside

theorem refl (p : Poll) : Aside p p := ⟨rfl, [], (List.append_nil _).symm, rfl⟩

theorem trans {p q r : Poll} (first : Aside p q) (second : Aside q r) : Aside p r := by
  obtain ⟨pulse, news, events, quiet⟩ := first
  obtain ⟨pulse', more, events', quiet'⟩ := second
  refine ⟨pulse'.trans pulse, news ++ more, ?_, ?_⟩
  · rw [events', events, List.append_assoc]
  · rw [fatals_append, quiet, quiet', List.append_nil]

theorem terminated {p q : Poll} (aside : Aside p q) : q.terminated = p.terminated :=
  congrArg Pulse.terminated aside.pulse

theorem asking {p q : Poll} (aside : Aside p q) : q.pulse.asking = p.pulse.asking :=
  congrArg Pulse.asking aside.pulse

theorem occupy {p q : Poll} (aside : Aside p q) (kind : Kind) :
    Aside (p.occupy kind) (q.occupy kind) := by
  obtain ⟨pulse, news⟩ := aside
  refine ⟨?_, news⟩
  rw [Poll.pulse_occupy, Poll.pulse_occupy, pulse]

end Aside

namespace Poll

theorem aside_occupy (p : Poll) {kind : Kind} (other : kind ≠ .runState) :
    Aside p (p.occupy kind) := by
  refine ⟨?_, [], (List.append_nil _).symm, rfl⟩
  simp [pulse_occupy, other]

theorem aside_release (p : Poll) {kind : Kind} (other : kind ≠ .runState) :
    Aside p (p.release kind) := by
  refine ⟨?_, [], (List.append_nil _).symm, rfl⟩
  simp [pulse, release, List.count_erase_of_ne other.symm]

theorem aside_filed (p : Poll) (answer : Answer) {query : Query} (other : query ≠ .state) :
    Aside p (p.filed answer query) := by
  have quiet : fatals (p.news answer query) = [] := by
    refine List.filterMap_eq_nil_iff.mpr fun event mem => ?_
    cases p.announced_of_mem_news answer mem with
    | fatal message => exact absurd rfl other
    | jobs | runState _ | jobInfo _ _ | schedules _ _ => rfl
  cases query with
  | state => exact absurd rfl other
  | list | status _ | detail _ | schedules _ => exact ⟨rfl, _, rfl, quiet⟩

theorem ne_error_of_ended {query : Query} {result : Result} (ended : Ended query result)
    (other : query ≠ .state) (stop : Stop) : result ≠ .error stop := by
  cases ended with
  | done query outcome ran => nofun
  | lost stop => exact absurd rfl other

end Poll

theorem begin?_stop {p q : Poll} {kind : Kind} {stop : Stop}
    (ended : p.begin? kind = (.ended (.error stop), q)) :
    stop = .terminated ∧ p.terminated = true := by
  unfold Poll.begin? at ended
  split at ended
  · rename_i result first
    obtain ⟨same, rfl⟩ := Prod.mk.inj ended
    cases same
    unfold Poll.firstCall at first
    split at first
    · cases first
    · split at first
      · rename_i terminated
        cases first
        exact ⟨rfl, terminated⟩
      · cases first
    · split at first <;> cases first
    · split at first <;> cases first
  · split at ended
    · cases (Prod.mk.inj ended).1
    · cases (Prod.mk.inj ended).1

theorem fatals_stateNews (settings : Settings) (failures : UInt32) (state : RunState)
    (answer : Answer) :
    fatals (stateNews settings failures state answer) =
      (stop? settings failures answer).toList.map Stop.message := by
  rw [stateNews]
  cases told : Poll.decoded RunState.ofFields answer with
  | ok state' =>
    have goes : stop? settings failures answer = none := by rw [stop?, told]
    rw [goes]
    dsimp only
    split <;> rfl
  | error cause =>
    cases stop? settings failures answer <;> rfl

theorem Poll.pulse_receive_runState {p : Poll} (alive : p.terminated = false) (answer : Answer) :
    (p.receive .runState answer).2.pulse =
      { settings := p.settings
        runState := toldState answer p.board.runState
        failures := toldFailures answer p.failures
        terminated := (stop? p.settings p.failures answer).isSome
        asking := p.pulse.asking - 1 } := by
  rw [receive, finish, receiveRunState_eq, filed_state _ _ alive]
  simp [pulse, release, List.count_erase_self]

/-! ## Pieces -/

structure Besides {α : Type} (cue : Cue) (p : Poll) (step : Step Poll (Except Stop α)) : Prop where
  cue : cue.map Prod.fst ≠ some stateCall
  aside : Aside p step.state
  call : step.call? ≠ some stateCall
  refused : ∀ stop, step.value? = some (.error stop) → stop = .terminated ∧ p.terminated = true

inductive Beat {α : Type} (cue : Cue) (p : Poll) (step : Step Poll (Except Stop α)) : Prop where
  | besides (besides : Besides cue p step)
  | asks (cue : cue.map Prod.fst ≠ some stateCall) (alive : p.terminated = false)
      (free : p.pulse.asking = 0) (aside : Aside (p.occupy .runState) step.state)
      (call : step.call? = some stateCall)
  | told (answer : Answer) (cue : cue = some (stateCall, answer))
      (aside : Aside (p.receive .runState answer).2 step.state)
      (call : step.call? ≠ some stateCall)
      (stops : ∀ stop, step.value? = some (.error stop) ↔
        (p.receiveRunState answer).1 = .error stop)

theorem Query.call_ne_stateCall {query : Query} (other : query ≠ .state) :
    query.call ≠ stateCall := by
  cases query with
  | state => exact absurd rfl other
  | list => decide
  | status uuid => simp [call, statusCall, stateCall, pollCall, Flight.request]
  | detail uuid => simp [call, detailCall, detailRequest, stateCall, pollCall, Flight.request]
  | schedules uuid => simp [call, schedulesCall, stateCall, pollCall, Flight.request]

theorem Flight.query_ne_state {flight : Flight} (other : flight.kind ≠ .runState) :
    flight.query ≠ .state := by
  cases flight with
  | runState => exact absurd rfl other
  | jobList | jobStatus _ | schedules _ => nofun

theorem besides_refused {p : Poll} {kind : Kind} {result : Result}
    (ended : p.begin? kind = (.ended result, p)) : Besides none p (.done result p) := by
  refine ⟨by simp, Aside.refl p, by simp [call?], ?_⟩
  intro stop value
  obtain rfl : result = .error stop := Option.some.inj value
  exact begin?_stop ended

theorem pieces_besides {kind : Kind} (other : kind ≠ .runState) (p : Poll) :
    Pieces Besides none p (refresh kind p) := by
  apply pieces_refresh
  · intro p result ended
    exact besides_refused ended
  · intro p flight first _
    obtain rfl := Poll.kind_of_firstCall first
    rw [land_apply, ← flight.call_query]
    refine ⟨nofun, p.aside_occupy other, ?_, nofun⟩
    exact fun same => Query.call_ne_stateCall (Flight.query_ne_state other) (Option.some.inj same)
  · intro p flight answer own
    subst own
    have about := Flight.query_ne_state other
    have asked : flight.query.call ≠ stateCall := Query.call_ne_stateCall about
    rw [← flight.call_query]
    obtain ⟨result, ended, lands⟩ | ⟨uuid, rfl, lands⟩ := p.landed_receive flight answer
    · rw [lands]
      refine ⟨fun same => asked (Option.some.inj same), ?_, nofun, ?_⟩
      · exact (p.aside_filed answer about).trans (Poll.aside_release _ other)
      · exact fun stop value =>
          absurd (Option.some.inj value) (Poll.ne_error_of_ended ended about stop)
    · rw [lands]
      refine ⟨fun same => asked (Option.some.inj same), p.aside_filed answer about, ?_, nofun⟩
      have next : (Query.detail uuid).call ≠ stateCall := Query.call_ne_stateCall nofun
      exact fun same => next (Option.some.inj same)
  · intro p uuid answer _
    have about : Query.detail uuid ≠ .state := nofun
    obtain ⟨outcome, _, stored⟩ := p.receiveDetail_eq answer uuid
    rw [stored]
    refine ⟨fun same => Query.call_ne_stateCall about (Option.some.inj same), ?_, nofun, ?_⟩
    · exact (p.aside_filed answer about).trans (Poll.aside_release _ (by decide))
    · rintro stop ⟨⟩

theorem pieces_beat_runState (p : Poll) : Pieces Beat none p (refresh .runState p) := by
  apply pieces_refresh
  · intro p result ended
    exact .besides (besides_refused ended)
  · intro p flight first free
    have alive : p.terminated = false := by
      unfold Poll.firstCall at first
      dsimp only at first
      split at first
      · cases first
      · rename_i alive
        simpa using alive
    have same : flight = .runState := by
      have own := Poll.kind_of_firstCall first
      cases flight <;> first | rfl | cases own
    subst same
    rw [land_apply]
    refine .asks (by simp) alive ?_ (Aside.refl _) rfl
    simpa [Poll.pulse, Poll.isBusy, List.count_eq_zero] using free
  · intro p flight answer own
    have same : flight = .runState := by
      cases flight <;> first | rfl | cases own
    subst same
    exact .told answer rfl (Aside.refl _) (by simp [landed, Poll.receive, Poll.finish, call?])
      (fun stop => by simp [landed, Poll.receive, Poll.finish, value?])
  · intro p uuid answer impossible
    cases impossible

section

variable {α β : Type} {cue : Cue} {p q : Poll} {step : Step Poll (Except Stop α)}
  {value : Except Stop α} {next : Step Poll (Except Stop β)}

/-- Both halt in the same place, and both or none are stopped. -/
structure Alike (step : Step Poll (Except Stop α)) (next : Step Poll (Except Stop β)) : Prop where
  state : next.state = step.state
  call : next.call? = step.call?
  stops : ∀ stop, next.value? = some (.error stop) ↔ step.value? = some (.error stop)

theorem alike_bind (next : Except Stop α → Script Poll (Except Stop β)) (call : Call)
    (resume : Answer → Script Poll (Except Stop α)) :
    Alike (.ask call q resume) ((Step.ask call q resume).bind next) :=
  ⟨rfl, rfl, fun _ => ⟨nofun, nofun⟩⟩

theorem alike_stop (stop : Stop) :
    Alike (.done (.error stop) q : Step Poll (Except Stop α))
      (.done (.error stop) q : Step Poll (Except Stop β)) :=
  ⟨rfl, rfl, fun _ => by simp [value?]⟩

theorem alike_ok (outcome : α) (other : β) :
    Alike (.done (.ok outcome) q : Step Poll (Except Stop α))
      (.done (.ok other) q : Step Poll (Except Stop β)) :=
  ⟨rfl, rfl, fun _ => by simp [value?]⟩

theorem Besides.congr (besides : Besides cue p step) (alike : Alike step next) :
    Besides cue p next := by
  refine ⟨besides.cue, ?_, ?_, ?_⟩
  · rw [alike.state]
    exact besides.aside
  · rw [alike.call]
    exact besides.call
  · exact fun stop stopped => besides.refused stop ((alike.stops stop).mp stopped)

theorem Beat.congr (beat : Beat cue p step) (alike : Alike step next) : Beat cue p next := by
  cases beat with
  | besides besides => exact .besides (besides.congr alike)
  | asks cue alive free aside call =>
    exact .asks cue alive free (alike.state ▸ aside) (alike.call.trans call)
  | told answer cue aside call stops =>
    exact .told answer cue (alike.state ▸ aside) (alike.call ▸ call) fun stop =>
      (alike.stops stop).trans (stops stop)

theorem Beat.of_besides (besides : Besides cue p (.done value q)) (beat : Beat none q next) :
    Beat cue p next := by
  have before : Aside p q := besides.aside
  cases beat with
  | besides after =>
    refine .besides ⟨besides.cue, before.trans after.aside, after.call, ?_⟩
    intro stop value
    rw [← before.terminated]
    exact after.refused stop value
  | asks _ alive free aside call =>
    rw [before.terminated] at alive
    rw [before.asking] at free
    exact .asks besides.cue alive free ((before.occupy _).trans aside) call
  | told answer impossible => cases impossible

theorem Beat.then_besides {outcome : α} (beat : Beat cue p (.done (.ok outcome) q))
    (besides : Besides none q next) (goes : ∀ stop, next.value? ≠ some (.error stop)) :
    Beat cue p next := by
  cases beat with
  | besides before =>
    refine .besides ⟨before.cue, before.aside.trans besides.aside, besides.call, ?_⟩
    exact fun stop value => absurd value (goes stop)
  | asks _ _ _ _ impossible => cases impossible
  | told answer cue aside _ stops =>
    refine .told answer cue (aside.trans besides.aside) besides.call fun stop => ?_
    rw [← stops stop]
    exact iff_of_false (goes stop) (by simp [value?])

end

theorem pieces_besides_jobInfo (p : Poll) :
    Pieces Besides none p ((refresh .jobInfo p).bind fun _ => .done (.ok ())) := by
  refine (pieces_besides (by decide) p).bind (fun besides => besides.congr (alike_bind _ _ _)) ?_
  intro cue p value q besides
  exact ⟨besides.cue, besides.aside, besides.call, by simp [value?]⟩

theorem pieces_beat_stateAndInfo (p : Poll) : Pieces Beat none p (stateAndInfo p) := by
  -- The reading of the run state and what begins after it are one piece, which is told the answer.
  refine (pieces_beat_runState p).bind (fun beat => beat.congr (alike_bind _ _ _)) ?_
  intro cue p value q beat
  cases value with
  | error stop => exact beat.congr (alike_stop stop)
  | ok outcome =>
    have rest := pieces_besides_jobInfo q
    refine (rest.imp .besides).resumed (beat.then_besides rest.first ?_)
    cases refresh .jobInfo q <;> simp [Step.bind, value?]

theorem pieces_beat_cycle (withJobList : Bool) (p : Poll) :
    Pieces Beat none p (cycle withJobList p) := by
  rw [cycle_apply]
  split
  · rename_i terminated
    refine .besides ⟨by simp, Aside.refl p, by simp [call?], ?_⟩
    intro stop refused
    cases refused
    exact ⟨rfl, terminated⟩
  split
  · exact (pieces_besides (by decide) p).join
      (fun besides => .besides (besides.congr (alike_bind _ _ _))) Beat.of_besides
      fun _ q => pieces_beat_stateAndInfo q
  · exact pieces_beat_stateAndInfo p

def refreshed (kind : Kind) : Script Poll (Except Stop Unit) := do
  return (← refresh kind).map fun _ => ()

theorem pieces_beat_refreshed (kind : Kind) (p : Poll) : Pieces Beat none p (refreshed kind p) := by
  have pieces : Pieces Beat none p (refresh kind p) := by
    by_cases own : kind = .runState
    · subst own
      exact pieces_beat_runState p
    · exact (pieces_besides own p).imp .besides
  refine pieces.bind (fun beat => beat.congr (alike_bind _ _ _)) ?_
  intro cue p value q beat
  cases value with
  | error stop => exact beat.congr (alike_stop stop)
  | ok outcome => exact beat.congr (alike_ok outcome ())

end Polling

end BackupConsole
