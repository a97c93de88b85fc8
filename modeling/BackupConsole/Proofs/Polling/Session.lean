import BackupConsole.Proofs.Console.Pump
import BackupConsole.Proofs.Polling.Readings
import Mathlib.Data.List.Perm.Basic

set_option autoImplicit false

namespace BackupConsole.Polling

open Wire Step

inductive Inquiry where
  | cycle (withJobList : Bool)
  | refresh (kind : Kind)
deriving DecidableEq, Repr

namespace Inquiry

def script : Inquiry → Script Poll (Except Stop Unit)
  | .cycle withJobList => Polling.cycle withJobList
  | .refresh kind => refreshed kind

def readsState : Inquiry → Bool
  | .cycle _ => true
  | .refresh kind => kind = .runState

theorem pieces_script (inquiry : Inquiry) (p : Poll) : Pieces Beat none p (inquiry.script p) := by
  cases inquiry with
  | cycle withJobList => exact pieces_beat_cycle withJobList p
  | refresh kind => exact pieces_beat_refreshed kind p

theorem script_terminated {inquiry : Inquiry} (reads : inquiry.readsState = true) {p : Poll}
    (terminated : p.terminated = true) : inquiry.script p = .done (.error .terminated) p := by
  cases inquiry with
  | cycle withJobList =>
    rw [script, cycle_apply, if_pos terminated]
  | refresh kind =>
    obtain rfl : kind = .runState := of_decide_eq_true reads
    rw [script, refreshed, Script.bind_apply, refresh_apply, Poll.begin?, Poll.firstCall,
      if_pos terminated]
    rfl

end Inquiry

/-- The console with the inquiries that wait for an answer, and what has come of the others. -/
structure Session where
  console : Console
  waiting : List (Waiting Poll (Except Stop Unit)) := []
  readings : List Reading := []
  results : List (Except Stop Unit) := []
  /-- All announcements that polling has made, the oldest first. -/
  announced : List Event := []

inductive Move where
  | begin (inquiry : Inquiry)
  | answer (place : Nat) (answer : Answer)
  | select (uuid : Option String)
  | setSort (key : SortKey)
  | next
  | pump

namespace Session

def poll (s : Session) : Poll := s.console.poll

/-- An inquiry has been worked on until it waits or ends. -/
def worked (s : Session) (step : Step Poll (Except Stop Unit)) : Session :=
  { s with
    console := { s.console with poll := step.state }
    waiting := s.waiting ++ step.waiting?.toList
    results := s.results ++ step.value?.toList
    announced := s.announced ++ step.state.events.drop s.poll.events.length }

def heard (s : Session) (place : Nat) (call : Call) (answer : Answer) : Session :=
  { s with
    waiting := s.waiting.eraseIdx place
    readings := s.readings ++ if call = stateCall then [reading answer] else [] }

def after (s : Session) : Move → Session
  | .begin inquiry => s.worked (inquiry.script s.poll)
  | .answer place answer =>
    match s.waiting[place]? with
    | some w => (s.heard place w.call answer).worked (w.resume answer s.poll)
    | none => s
  | .select uuid =>
    { s with console := { s.console with
        poll := { s.poll with board := (s.poll.board.select uuid).2 } } }
  | .setSort key => { s with console := s.console.setSort key }
  | .next => { s with console := s.console.applyNext.2 }
  | .pump => { s with console := s.console.pump.2 }

def run (s : Session) (moves : List Move) : Session := moves.foldl after s

def new (settings : Settings) (key : SortKey) : Session := { console := Console.new settings key }

def asking (s : Session) : Nat := s.waiting.countP fun w => w.call = stateCall

theorem worked_done (s : Session) (result : Except Stop Unit) :
    s.worked (.done result s.poll) = { s with results := s.results ++ [result] } := by
  simp [worked, waiting?, value?, state, poll]

theorem asking_worked (s : Session) (step : Step Poll (Except Stop Unit)) :
    (s.worked step).asking = s.asking + if step.call? = some stateCall then 1 else 0 := by
  rw [asking, worked, List.countP_append, asking]
  cases step with
  | done value state => rfl
  | ask call state resume => simp [waiting?, call?, List.countP_cons]

theorem asking_heard (s : Session) {place : Nat} {w : Waiting Poll (Except Stop Unit)}
    (there : s.waiting[place]? = some w) (answer : Answer) :
    s.asking = (s.heard place w.call answer).asking + if w.call = stateCall then 1 else 0 := by
  obtain ⟨inside, rfl⟩ := List.getElem?_eq_some_iff.mp there
  have split := (List.getElem_cons_eraseIdx_perm inside).countP_eq fun w => w.call = stateCall
  rw [asking, ← split, List.countP_cons]
  simp [asking, heard]

theorem fatal_after (s : Session) (move : Move) (shown : s.console.fatal.isSome = true) :
    (s.after move).console.fatal.isSome = true := by
  cases move with
  | begin _ | select _ | setSort _ => exact shown
  | answer place answer =>
    simp only [after]
    cases s.waiting[place]? <;> exact shown
  | next =>
    simp only [after]
    rw [Console.fatal_applyNext, Option.isSome_or, shown, Bool.or_true]
  | pump =>
    simp only [after]
    rw [Console.fatal_pump, Option.isSome_or, shown, Bool.or_true]

theorem fatal_run (s : Session) (moves : List Move) (shown : s.console.fatal.isSome = true) :
    (s.run moves).console.fatal.isSome = true := by
  induction moves generalizing s with
  | nil => exact shown
  | cons move moves ih => exact ih (s.after move) (s.fatal_after move shown)

theorem results_after (s : Session) (move : Move) :
    ∃ result : Option (Except Stop Unit), (s.after move).results = s.results ++ result.toList := by
  cases move with
  | begin inquiry => exact ⟨_, rfl⟩
  | answer place answer =>
    simp only [after]
    cases s.waiting[place]? with
    | none => exact ⟨none, (List.append_nil _).symm⟩
    | some w => exact ⟨_, rfl⟩
  | select _ | setSort _ | next | pump => exact ⟨none, (List.append_nil _).symm⟩

theorem readings_after (s : Session) (move : Move) :
    ∃ r : Option Reading, (s.after move).readings = s.readings ++ r.toList := by
  cases move with
  | answer place answer =>
    simp only [after]
    cases s.waiting[place]? with
    | none => exact ⟨none, (List.append_nil _).symm⟩
    | some w =>
      by_cases own : w.call = stateCall
      · exact ⟨some (reading answer), by simp [worked, heard, own]⟩
      · exact ⟨none, by simp [worked, heard, own]⟩
  | begin _ | select _ | setSort _ | next | pump => exact ⟨none, (List.append_nil _).symm⟩

end Session

end BackupConsole.Polling
