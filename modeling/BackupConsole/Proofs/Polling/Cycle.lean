import BackupConsole.Proofs.Polling.Refresh
import Mathlib.Data.List.Nodup
import Mathlib.Tactic.ByContra

set_option autoImplicit false

namespace BackupConsole

open Job Wire

/-- The board after others have selected one job after the other. -/
def Board.picked (b : Board) (picks : List (Option String)) : Board :=
  picks.foldl (fun b uuid => (b.select uuid).2) b

namespace Board

theorem picked_with (b : Board) (roster : Roster) (runState : RunState)
    (picks : List (Option String)) :
    ({ b with roster, runState } : Board).picked picks =
      { b.picked picks with roster, runState } := by
  induction picks generalizing b with
  | nil => rfl
  | cons uuid picks ih =>
    have first : (({ b with roster, runState } : Board).select uuid).2 =
        { (b.select uuid).2 with roster, runState } := by
      unfold select
      by_cases same : b.selected = uuid
      · rw [if_pos same, if_pos same]
      · rw [if_neg same, if_neg same]
    change (({ b with roster, runState } : Board).select uuid).2.picked picks = _
    rw [first, ih]
    rfl

@[simp] theorem roster_picked (b : Board) (picks : List (Option String)) :
    (b.picked picks).roster = b.roster := by
  have h := congrArg Board.roster (picked_with b b.roster b.runState picks)
  exact h

@[simp] theorem runState_picked (b : Board) (picks : List (Option String)) :
    (b.picked picks).runState = b.runState := by
  have h := congrArg Board.runState (picked_with b b.roster b.runState picks)
  exact h

end Board

namespace Polling

/-- The answer to a call, and what others select before it comes. -/
structure Reply where
  answer : Answer
  picks : List (Option String) := []

def Poll.picked (p : Poll) (picks : List (Option String)) : Poll :=
  { p with board := p.board.picked picks }

def listCall : Call := pollCall Flight.jobList.request

def stateCall : Call := pollCall Flight.runState.request

def statusCall (uuid : String) : Call := pollCall (Flight.jobStatus uuid).request

def detailCall (uuid : String) : Call := pollCall (detailRequest uuid)

def schedulesCall (uuid : String) : Call := pollCall (Flight.schedules uuid).request

section

variable (server : Call → Reply) {p : Poll} (idle : p.busy = []) (calls : List Call)
include idle

theorem begin?_of_idle {kind : Kind} {flight : Flight} (first : p.firstCall kind = .waiting flight) :
    p.begin? kind = (.waiting flight, p.occupy kind) := by
  simp [Poll.begin?, first, Poll.isBusy, idle]

end

/-! ## A whole cycle -/

section

variable (server : Call → Reply) (p : Poll) (withJobList : Bool)

def listed : Roster :=
  if withJobList then relisted (server listCall).answer p.board.roster else p.board.roster

end

end Polling

end BackupConsole
