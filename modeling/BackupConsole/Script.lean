import BackupConsole.Wire.Answer

/-!
# Scripts

A script is a piece of work on a state that may ask the server in between. It is data: a finished
state with a value, or a call to the server together with the state at that moment and what to do
with the answer. Who answers is decided by whoever runs the script; the state may have changed when
the answer comes.
-/

set_option autoImplicit false

namespace BackupConsole

open Wire

/-- What is left to do of a script. -/
inductive Step (σ α : Type) where
  | done (value : α) (state : σ)
  | ask (call : Call) (state : σ) (resume : Answer → σ → Step σ α)

/-- A piece of work on a state of type `σ` with a value of type `α`. -/
def Script (σ α : Type) : Type := σ → Step σ α

namespace Step

variable {σ τ α β ω : Type}

def bind (next : α → Script σ β) : Step σ α → Step σ β
  | .done value state => next value state
  | .ask call state resume => .ask call state fun answer state => bind next (resume answer state)

/-- Runs the script in a world that answers its calls and may change the state meanwhile. -/
def runWith (serve : Call → ω → σ → Answer × ω × σ) : Step σ α → ω → α × σ × ω
  | .done value state, world => (value, state, world)
  | .ask call state resume, world =>
    match serve call world state with
    | (answer, world, state) => runWith serve (resume answer state) world

def run (serve : Call → ω → Answer × ω) : Step σ α → ω → α × σ × ω :=
  runWith fun call world state =>
    match serve call world with
    | (answer, world) => (answer, world, state)

def runM {m : Type → Type} [Monad m] (serve : Call → m Answer) : Step σ α → m (α × σ)
  | .done value state => pure (value, state)
  | .ask call state resume => do
    let answer ← serve call
    runM serve (resume answer state)

def within (get : τ → σ) (put : σ → τ → τ) (whole : τ) : Step σ α → Step τ α
  | .done value part => .done value (put part whole)
  | .ask call part resume =>
    .ask call (put part whole) fun answer whole => within get put whole (resume answer (get whole))

end Step

namespace Script

variable {σ τ α β : Type}

instance : Monad (Script σ) where
  pure value := fun state => .done value state
  bind first next := fun state => (first state).bind next

def get : Script σ σ := fun state => .done state state

def modify (f : σ → σ) : Script σ Unit := fun state => .done () (f state)

def change (f : σ → α × σ) : Script σ α := fun state => .done (f state).1 (f state).2

def ask (call : Call) : Script σ Answer := fun state =>
  .ask call state fun answer state => .done answer state

def within (get : τ → σ) (put : σ → τ → τ) (script : Script σ α) : Script τ α :=
  fun whole => (script (get whole)).within get put whole

theorem bind_apply (first : Script σ α) (next : α → Script σ β) (state : σ) :
    (first >>= next) state = (first state).bind next := rfl

end Script

namespace Step

variable {σ α β ω : Type}

theorem runWith_bind (serve : Call → ω → σ → Answer × ω × σ) (next : α → Script σ β)
    (step : Step σ α) (world : ω) :
    (step.bind next).runWith serve world =
      match step.runWith serve world with
      | (value, state, world) => (next value state).runWith serve world := by
  induction step generalizing world with
  | done value state => rfl
  | ask call state resume ih =>
    simp only [bind, runWith]
    exact ih _ _ _

end Step

end BackupConsole
