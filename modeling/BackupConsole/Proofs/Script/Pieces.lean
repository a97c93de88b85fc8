import BackupConsole.Script

set_option autoImplicit false

namespace BackupConsole

open Wire

namespace Step

variable {σ τ α β ω : Type}

theorem bind_assoc {γ : Type} (step : Step σ α) (next : α → Script σ β) (last : β → Script σ γ) :
    (step.bind next).bind last = step.bind fun value state => (next value state).bind last := by
  induction step with
  | done value state => rfl
  | ask call state resume ih =>
    simp only [bind]
    congr 1
    funext answer state
    exact ih answer state

section

variable {get : τ → σ} {put : σ → τ → τ}
  (get_put : ∀ part whole, get (put part whole) = part)
  (put_put : ∀ part other whole, put part (put other whole) = put part whole)

include put_put in
theorem within_put (step : Step σ α) (part : σ) (whole : τ) :
    step.within get put (put part whole) = step.within get put whole := by
  -- Before the first call nothing of the whole but the part is looked at, and after it all is new.
  cases step with
  | done value other => exact congrArg (done value) (put_put other part whole)
  | ask call other resume =>
    simp only [within]
    rw [put_put]

include get_put put_put in
theorem within_bind (step : Step σ α) (next : α → Script σ β) (whole : τ) :
    (step.bind next).within get put whole =
      (step.within get put whole).bind fun value whole =>
        (next value (get whole)).within get put whole := by
  induction step generalizing whole with
  | done value part =>
    simp only [bind, within]
    rw [get_put, within_put put_put]
  | ask call part resume ih =>
    simp only [bind, within]
    congr 1
    funext answer whole
    exact ih answer (get whole) whole

include get_put put_put in
theorem runWith_within {inner : Call → ω → σ → Answer × ω × σ}
    {outer : Call → ω → τ → Answer × ω × τ}
    (serves : ∀ call world whole, outer call world whole =
      ((inner call world (get whole)).1, (inner call world (get whole)).2.1,
        put (inner call world (get whole)).2.2 whole))
    (step : Step σ α) (whole : τ) (world : ω) :
    (step.within get put whole).runWith outer world =
      ((step.runWith inner world).1, put (step.runWith inner world).2.1 whole,
        (step.runWith inner world).2.2) := by
  induction step generalizing whole world with
  | done value part => rfl
  | ask call part resume ih =>
    rw [within, runWith, serves, get_put, put_put]
    dsimp only
    rw [ih, get_put, put_put]
    rfl

end

def state : Step σ α → σ
  | .done _ state => state
  | .ask _ state _ => state

def call? : Step σ α → Option Call
  | .done _ _ => none
  | .ask call _ _ => some call

def value? : Step σ α → Option α
  | .done value _ => some value
  | .ask _ _ _ => none

/-- What a piece is resumed with: nothing at the beginning, then each call with its answer. -/
abbrev Cue := Option (Call × Answer)

/-- `R` says of every piece what it was resumed with, which state it found and where it halts. -/
def Pieces (R : Cue → σ → Step σ α → Prop) : Cue → σ → Step σ α → Prop
  | cue, found, .done value state => R cue found (.done value state)
  | cue, found, .ask call state resume =>
    R cue found (.ask call state resume) ∧
      ∀ answer found, Pieces R (some (call, answer)) found (resume answer found)

theorem Pieces.first {R : Cue → σ → Step σ α → Prop} {cue : Cue} {found : σ} {step : Step σ α}
    (pieces : Pieces R cue found step) : R cue found step := by
  cases step with
  | done value state => exact pieces
  | ask call state resume => exact pieces.1

theorem Pieces.resumed {R : Cue → σ → Step σ α → Prop} {cue other : Cue} {found before : σ}
    {step : Step σ α} (pieces : Pieces R cue found step) (first : R other before step) :
    Pieces R other before step := by
  cases step with
  | done value state => exact first
  | ask call state resume => exact ⟨first, pieces.2⟩

/-- The last piece of the first part and the first piece of the second one are one piece. -/
theorem Pieces.bind {R : Cue → σ → Step σ α → Prop} {S : Cue → σ → Step σ β → Prop}
    {next : α → Script σ β}
    (asked : ∀ {cue found call state resume}, R cue found (.ask call state resume) →
      S cue found (Step.bind next (.ask call state resume)))
    (joined : ∀ {cue found value state}, R cue found (.done value state) →
      Pieces S cue found (next value state))
    {cue : Cue} {found : σ} {step : Step σ α} (pieces : Pieces R cue found step) :
    Pieces S cue found (step.bind next) := by
  induction step generalizing cue found with
  | done value state => exact joined pieces
  | ask call state resume ih =>
    exact ⟨asked pieces.1, fun answer found => ih answer found (pieces.2 answer found)⟩

theorem Pieces.join {R : Cue → σ → Step σ α → Prop} {S : Cue → σ → Step σ β → Prop}
    {next : α → Script σ β}
    (asked : ∀ {cue found call state resume}, R cue found (.ask call state resume) →
      S cue found (Step.bind next (.ask call state resume)))
    (joined : ∀ {cue found value state step}, R cue found (.done value state) →
      S none state step → S cue found step)
    {cue : Cue} {found : σ} {step : Step σ α} (pieces : Pieces R cue found step)
    (rest : ∀ value state, Pieces S none state (next value state)) :
    Pieces S cue found (step.bind next) :=
  pieces.bind asked fun ends => (rest _ _).resumed (joined ends (rest _ _).first)

theorem Pieces.imp {R S : Cue → σ → Step σ α → Prop}
    (weaker : ∀ {cue found step}, R cue found step → S cue found step) {cue : Cue} {found : σ}
    {step : Step σ α} (pieces : Pieces R cue found step) : Pieces S cue found step := by
  induction step generalizing cue found with
  | done value state => exact weaker pieces
  | ask call state resume ih =>
    exact ⟨weaker pieces.1, fun answer found => ih answer found (pieces.2 answer found)⟩

theorem Pieces.runWith {T : σ → σ → Prop} (trans : ∀ {a b c}, T a b → T b c → T a c)
    {serve : Call → ω → σ → Answer × ω × σ}
    (others : ∀ call world state, T state (serve call world state).2.2) {cue : Cue} {found : σ}
    {step : Step σ α} (pieces : Pieces (fun _ found step => T found step.state) cue found step)
    (world : ω) : T found (step.runWith serve world).2.1 := by
  -- The next piece finds what others have left, so the induction is for any cue and state found.
  induction step generalizing cue found world with
  | done value state => exact pieces
  | ask call state resume ih =>
    exact trans (trans pieces.1 (others call world state)) (ih _ _ (pieces.2 _ _) _)

end Step

structure Waiting (σ α : Type) where
  call : Call
  resume : Answer → Script σ α

def Waiting.Pieces {σ α : Type} (R : Step.Cue → σ → Step σ α → Prop) (w : Waiting σ α) : Prop :=
  ∀ answer found, Step.Pieces R (some (w.call, answer)) found (w.resume answer found)

namespace Step

variable {σ α : Type}

def waiting? : Step σ α → Option (Waiting σ α)
  | .done _ _ => none
  | .ask call _ resume => some ⟨call, resume⟩

theorem call?_of_waiting {step : Step σ α} {w : Waiting σ α} (waits : step.waiting? = some w) :
    step.call? = some w.call := by
  cases step with
  | done value state => cases waits
  | ask call state resume =>
    cases waits
    rfl

theorem Pieces.waiting {R : Cue → σ → Step σ α → Prop} {cue : Cue} {found : σ} {step : Step σ α}
    (pieces : Pieces R cue found step) {w : Waiting σ α} (waits : step.waiting? = some w) :
    w.Pieces R := by
  cases step with
  | done value state => cases waits
  | ask call state resume =>
    cases waits
    exact pieces.2

end Step

end BackupConsole
