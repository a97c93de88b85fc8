import BackupConsole.Job.Detail
import BackupConsole.Job.Schedule
import BackupConsole.Roster

set_option autoImplicit false

namespace BackupConsole

open Job

structure Board where
  roster : Roster := {}
  runState : RunState := .running
  selected : Option String := none
  detail : Option Detail := none
  schedules : List Schedule := []
deriving DecidableEq, Repr, Inhabited

namespace Board

def selectedJob? (b : Board) : Option Snapshot := b.selected.bind b.roster.job?

def setRunState (b : Board) (state : RunState) : Bool × Board :=
  (b.runState != state, { b with runState := state })

/-- The board with another selection, and whether it is another one. Progress and schedules of the
job selected before are dropped. -/
def select (b : Board) (uuid : Option String) : Bool × Board :=
  if b.selected = uuid then (false, b)
  else (true, { b with selected := uuid, detail := none, schedules := [] })

/-- The board with the progress of the selected job, and whether it is stored. -/
def setDetail (b : Board) (detail : Detail) : Bool × Board :=
  if b.selected = some detail.uuid then (true, { b with detail := some detail }) else (false, b)

def setSchedules (b : Board) (uuid : String) (schedules : List Schedule) : Bool × Board :=
  if b.selected = some uuid then (true, { b with schedules }) else (false, b)

theorem selected_select (b : Board) (uuid : Option String) : (b.select uuid).2.selected = uuid := by
  unfold select
  split <;> simp_all

@[simp] theorem roster_select (b : Board) (uuid : Option String) :
    (b.select uuid).2.roster = b.roster := by
  unfold select
  split <;> rfl

end Board

end BackupConsole
