import BackupConsole.Proofs.Script.Pieces

set_option autoImplicit false

namespace BackupConsole

open Wire

abbrev Transcript := List (Call × Answer)

/-- The answer to a call may depend on all that has been asked and answered before. -/
abbrev Responder := Transcript → Call → Answer

namespace Responder

variable {σ : Type}

def serve (server : Responder) (call : Call) (heard : Transcript) : Answer × Transcript :=
  (server heard call, heard ++ [(call, server heard call)])

def record (server : Responder) (call : Call) (heard : Transcript) (state : σ) :
    Answer × Transcript × σ :=
  (server heard call, heard ++ [(call, server heard call)], state)

def answers (server : Responder) : Transcript → List Call → Transcript
  | _, [] => []
  | heard, call :: calls =>
    (call, server heard call) :: answers server (heard ++ [(call, server heard call)]) calls

theorem answers_append (server : Responder) (heard : Transcript) (calls more : List Call) :
    server.answers heard (calls ++ more) =
      server.answers heard calls ++ server.answers (heard ++ server.answers heard calls) more := by
  induction calls generalizing heard with
  | nil => rw [List.nil_append, answers, List.nil_append, List.append_nil]
  | cons call calls ih =>
    rw [List.cons_append, answers, answers, ih, List.cons_append, List.append_assoc]
    rfl

end Responder

namespace Step

variable {σ τ α β : Type}

/-- The value and the state in which a script ends, and the transcript that it carries on. -/
def recorded (server : Responder) (step : Step σ α) (heard : Transcript) : α × σ × Transcript :=
  step.runWith server.record heard

theorem recorded_eq_run (server : Responder) (step : Step σ α) (heard : Transcript) :
    step.recorded server heard = step.run server.serve heard := rfl

theorem recorded_ask (server : Responder) (call : Call) (state : σ)
    (resume : Answer → σ → Step σ α) (heard : Transcript) :
    (ask call state resume).recorded server heard =
      (resume (server heard call) state).recorded server (heard ++ [(call, server heard call)]) := rfl

theorem recorded_bind (server : Responder) (next : α → Script σ β) (step : Step σ α)
    (heard : Transcript) :
    (step.bind next).recorded server heard =
      match step.recorded server heard with
      | (value, state, heard) => (next value state).recorded server heard :=
  runWith_bind server.record next step heard

theorem recorded_grows (server : Responder) (step : Step σ α) (heard : Transcript) :
    ∃ more, (step.recorded server heard).2.2 = heard ++ more := by
  induction step generalizing heard with
  | done value state => exact ⟨[], (List.append_nil heard).symm⟩
  | ask call state resume ih =>
    obtain ⟨more, grows⟩ := ih (server heard call) state (heard ++ [(call, server heard call)])
    exact ⟨_, grows.trans (List.append_assoc ..)⟩

theorem recorded_of_call? {server : Responder} {step : Step σ α} {call : Call}
    (asks : step.call? = some call) (heard : Transcript) :
    ∃ more, (step.recorded server heard).2.2 = heard ++ (call, server heard call) :: more := by
  cases step with
  | done value state => cases asks
  | ask other state resume =>
    cases asks
    obtain ⟨more, grows⟩ := recorded_grows server (resume (server heard call) state)
      (heard ++ [(call, server heard call)])
    exact ⟨more, grows.trans (List.append_assoc ..)⟩

def Comes (server : Responder) (call : Call) : Step σ α → Prop
  | .done _ _ => False
  | .ask other _ resume =>
    other = call ∨ ∀ heard found, Comes server call (resume (server heard other) found)

theorem Comes.bind {server : Responder} {call : Call} {step : Step σ α} {next : α → Script σ β}
    (comes : step.Comes server call) : (step.bind next).Comes server call := by
  induction step with
  | done value state => exact comes.elim
  | ask other state resume ih =>
    exact comes.imp id fun later heard found => ih _ _ (later heard found)

/-- What `I` says of transcript and state holds whenever the script waits and when it ends, whatever
it is answered. -/
def Holds (I : Transcript → σ → Prop) : Transcript → Step σ α → Prop
  | heard, .done _ state => I heard state
  | heard, .ask call state resume =>
    I heard state ∧ ∀ answer, Holds I (heard ++ [(call, answer)]) (resume answer state)

variable {I : Transcript → σ → Prop} {heard : Transcript}

theorem Holds.bind {step : Step σ α} {next : α → Script σ β} (first : step.Holds I heard)
    (rest : ∀ value heard state, I heard state → (next value state).Holds I heard) :
    (step.bind next).Holds I heard := by
  induction step generalizing heard with
  | done value state => exact rest value heard state first
  | ask call state resume ih => exact ⟨first.1, fun answer => ih answer state (first.2 answer)⟩

theorem Holds.recorded {step : Step σ α} (holds : step.Holds I heard) (server : Responder) :
    I (step.recorded server heard).2.2 (step.recorded server heard).2.1 := by
  induction step generalizing heard with
  | done value state => exact holds
  | ask call state resume ih => exact ih _ _ (holds.2 _)

def noted {ω : Type} (serve : Call → ω → Answer × ω) (call : Call) (world : Transcript × ω) :
    Answer × Transcript × ω :=
  let answered := serve call world.2
  (answered.1, world.1 ++ [(call, answered.1)], answered.2)

theorem Holds.noted {ω : Type} {step : Step σ α} (holds : step.Holds I heard)
    (serve : Call → ω → Answer × ω) (world : ω) :
    let ran := step.run (Step.noted serve) (heard, world)
    I ran.2.2.1 ran.2.1 := by
  induction step generalizing heard world with
  | done value state => exact holds
  | ask call state resume ih => exact ih _ _ (holds.2 _) _

theorem Holds.run {ω : Type} {step : Step σ α} (holds : step.Holds I heard)
    (serve : Call → ω → Answer × ω) (world : ω) : ∃ heard, I heard (step.run serve world).2.1 := by
  induction step generalizing heard world with
  | done value state => exact ⟨heard, holds⟩
  | ask call state resume ih => exact ih _ _ (holds.2 _) _

/-- What each piece keeps holds of a script that nobody disturbs. A piece is resumed with the answer
to a call that the piece before has made. -/
theorem Pieces.holds {R : Cue → σ → Step σ α → Prop} {P : Call → Prop}
    (asks : ∀ {cue found step call}, R cue found step → step.call? = some call → P call)
    (kept : ∀ {heard cue found step}, (∀ exchange, cue = some exchange → P exchange.1) →
      R cue found step → I heard found → I (heard ++ cue.toList) step.state)
    {cue : Cue} {found : σ} {step : Step σ α} (pieces : Pieces R cue found step)
    (allowed : ∀ exchange, cue = some exchange → P exchange.1) (holds : I heard found) :
    step.Holds I (heard ++ cue.toList) := by
  induction step generalizing heard cue found with
  | done value state => exact kept allowed pieces holds
  | ask call state resume ih =>
    have now : I (heard ++ cue.toList) state := kept allowed pieces.1 holds
    refine ⟨now, fun answer => ih answer state (pieces.2 answer state) ?_ now⟩
    rintro exchange ⟨⟩
    exact asks pieces.1 rfl

theorem Holds.within {get : τ → σ} {put : σ → τ → τ} {J : Transcript → τ → Prop}
    (get_put : ∀ part whole, get (put part whole) = part)
    (put_put : ∀ part other whole, put part (put other whole) = put part whole) {whole : τ}
    {step : Step σ α} (holds : step.Holds (fun heard part => J heard (put part whole)) heard) :
    (step.within get put whole).Holds J heard := by
  induction step generalizing heard with
  | done value part => exact holds
  | ask call part resume ih =>
    refine ⟨holds.1, fun answer => ?_⟩
    dsimp only
    rw [get_put, within_put put_put]
    exact ih answer part (holds.2 answer)

end Step

namespace Script

variable {σ α β : Type} {I : Transcript → σ → Prop}

def Holds (I : Transcript → σ → Prop) (script : Script σ α) : Prop :=
  ∀ heard state, I heard state → (script state).Holds I heard

theorem holds_pure (value : α) : (pure value : Script σ α).Holds I := fun _ _ holds => holds

theorem holds_get : (get : Script σ σ).Holds I := fun _ _ holds => holds

theorem holds_modify {f : σ → σ} (kept : ∀ heard state, I heard state → I heard (f state)) :
    (modify f).Holds I := kept

theorem Holds.bind {first : Script σ α} {next : α → Script σ β} (holds : first.Holds I)
    (rest : ∀ value, (next value).Holds I) : (first >>= next).Holds I :=
  fun heard state now => (holds heard state now).bind rest

end Script

end BackupConsole
