import BackupConsole.Script

set_option autoImplicit false

namespace BackupConsole

open Wire

variable {σ τ α β ω : Type} {I : σ → Prop} {P : Call → Prop}

namespace Step

def Keeps (I : σ → Prop) : Step σ α → Prop
  | .done _ state => I state
  | .ask _ state resume => I state ∧ ∀ answer state, I state → Keeps I (resume answer state)

theorem Keeps.bind {step : Step σ α} {next : α → Script σ β} (first : step.Keeps I)
    (rest : ∀ value state, I state → (next value state).Keeps I) : (step.bind next).Keeps I := by
  induction step with
  | done value state => exact rest value state first
  | ask call state resume ih =>
    exact ⟨first.1, fun answer state holds => ih answer state (first.2 answer state holds)⟩

theorem Keeps.runWith {step : Step σ α} (keeps : step.Keeps I)
    {serve : Call → ω → σ → Answer × ω × σ}
    (others : ∀ call world state, I state → I (serve call world state).2.2) (world : ω) :
    I (step.runWith serve world).2.1 := by
  induction step generalizing world with
  | done value state => exact keeps
  | ask call state resume ih => exact ih _ _ (keeps.2 _ _ (others call world state keeps.1)) _

/-- The script asks for nothing but `P` in states that `I` says something about, and keeps that. -/
def Asks (I : σ → Prop) (P : Call → Prop) : Step σ α → Prop
  | .done _ state => I state
  | .ask call state resume =>
    P call ∧ I state ∧ ∀ answer state, I state → Asks I P (resume answer state)

theorem Asks.bind {step : Step σ α} {next : α → Script σ β} (first : step.Asks I P)
    (rest : ∀ value state, I state → (next value state).Asks I P) : (step.bind next).Asks I P := by
  induction step with
  | done value state => exact rest value state first
  | ask call state resume ih =>
    obtain ⟨allowed, holds, first⟩ := first
    exact ⟨allowed, holds, fun answer state holds => ih answer state (first answer state holds)⟩

theorem Asks.imp {Q : Call → Prop} {step : Step σ α} (asks : step.Asks I P)
    (weaker : ∀ call, P call → Q call) : step.Asks I Q := by
  induction step with
  | done value state => exact asks
  | ask call state resume ih =>
    obtain ⟨allowed, holds, rest⟩ := asks
    exact ⟨weaker call allowed, holds, fun answer state holds => ih answer state (rest answer state holds)⟩

theorem Asks.keeps {step : Step σ α} (asks : step.Asks I P) : step.Keeps I := by
  induction step with
  | done value state => exact asks
  | ask call state resume ih =>
    exact ⟨asks.2.1, fun answer state holds => ih answer state (asks.2.2 answer state holds)⟩

theorem Keeps.asks {step : Step σ α} (keeps : step.Keeps I) : step.Asks I fun _ => True := by
  induction step with
  | done value state => exact keeps
  | ask call state resume ih =>
    exact ⟨trivial, keeps.1, fun answer state holds => ih answer state (keeps.2 answer state holds)⟩

theorem Asks.calls {step : Step σ α} (asks : step.Asks I P)
    {serve : Call → List Call → σ → Answer × List Call × σ}
    (others : ∀ call sent state, I state → I (serve call sent state).2.2)
    (notes : ∀ call sent state, (serve call sent state).2.1 = sent ++ [call]) {sent : List Call}
    (before : ∀ call ∈ sent, P call) : ∀ call ∈ (step.runWith serve sent).2.2, P call := by
  induction step generalizing sent with
  | done value state => exact before
  | ask call state resume ih =>
    obtain ⟨allowed, holds, rest⟩ := asks
    refine ih _ _ (rest _ _ (others call sent state holds)) ?_
    rw [notes]
    exact List.forall_mem_append.mpr ⟨before, List.forall_mem_singleton.mpr allowed⟩

theorem Asks.within {get : τ → σ} {put : σ → τ → τ}
    (get_put : ∀ part whole, get (put part whole) = part) {step : Step σ α} (asks : step.Asks I P)
    (whole : τ) : (step.within get put whole).Asks (fun whole => I (get whole)) P := by
  induction step generalizing whole with
  | done value part =>
    change I (get (put part whole))
    rw [get_put]
    exact asks
  | ask call part resume ih =>
    refine ⟨asks.1, ?_, fun answer whole holds => ih _ _ (asks.2.2 answer (get whole) holds) whole⟩
    change I (get (put part whole))
    rw [get_put]
    exact asks.2.1

theorem Keeps.within {get : τ → σ} {put : σ → τ → τ}
    (get_put : ∀ part whole, get (put part whole) = part) {step : Step σ α} (keeps : step.Keeps I)
    (whole : τ) : (step.within get put whole).Keeps fun whole => I (get whole) := by
  induction step generalizing whole with
  | done value part =>
    change I (get (put part whole))
    rw [get_put]
    exact keeps
  | ask call part resume ih =>
    refine ⟨?_, fun answer whole holds => ih _ _ (keeps.2 answer (get whole) holds) whole⟩
    change I (get (put part whole))
    rw [get_put]
    exact keeps.1

end Step

namespace Script

def Keeps (I : σ → Prop) (script : Script σ α) : Prop := ∀ state, I state → (script state).Keeps I

theorem keeps_pure (value : α) : (pure value : Script σ α).Keeps I := fun _ holds => holds

theorem keeps_get : (get : Script σ σ).Keeps I := fun _ holds => holds

theorem keeps_modify {f : σ → σ} (kept : ∀ state, I state → I (f state)) : (modify f).Keeps I := kept

theorem Keeps.bind {first : Script σ α} {next : α → Script σ β} (keeps : first.Keeps I)
    (rest : ∀ value, (next value).Keeps I) : (first >>= next).Keeps I :=
  fun state holds => (keeps state holds).bind rest

def Asks (I : σ → Prop) (P : Call → Prop) (script : Script σ α) : Prop :=
  ∀ state, I state → (script state).Asks I P

theorem asks_pure (value : α) : (pure value : Script σ α).Asks I P := fun _ holds => holds

theorem asks_get : (get : Script σ σ).Asks I P := fun _ holds => holds

theorem asks_modify {f : σ → σ} (kept : ∀ state, I state → I (f state)) : (modify f).Asks I P := kept

theorem Asks.bind {first : Script σ α} {next : α → Script σ β} (asks : first.Asks I P)
    (rest : ∀ value, (next value).Asks I P) : (first >>= next).Asks I P :=
  fun state holds => (asks state holds).bind rest

theorem Asks.within {get : τ → σ} {put : σ → τ → τ}
    (get_put : ∀ part whole, get (put part whole) = part) {script : Script σ α}
    (asks : script.Asks I P) : (script.within get put).Asks (fun whole => I (get whole)) P :=
  fun whole holds => (asks (get whole) holds).within get_put whole

theorem Keeps.within {get : τ → σ} {put : σ → τ → τ}
    (get_put : ∀ part whole, get (put part whole) = part) {script : Script σ α}
    (keeps : script.Keeps I) : (script.within get put).Keeps fun whole => I (get whole) :=
  fun whole holds => (keeps (get whole) holds).within get_put whole

end Script

end BackupConsole
