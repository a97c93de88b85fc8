import BackupConsole.Job.Schedule
import BackupConsole.Job.Snapshot

set_option autoImplicit false

namespace BackupConsole.Simulation

open Job

def entriesPerStep : Nat := 25

def entrySize : Nat := 65536

structure SimJob where
  snapshot : Snapshot
  doneCount : Nat := 0
  totalCount : Nat := 400
  volumeNumber : UInt32 := 0
  requestedVolume : UInt32 := 0
  password : Option String := none
  schedules : List Schedule := []
  /-- Progress fields reported in place of the computed ones. -/
  overrides : List (String × String) := []
deriving DecidableEq, Repr

namespace SimJob

def new (uuid name : String) (state : State) : SimJob :=
  { snapshot :=
      { uuid, name, state
        deltaCompressAlgorithm := "none"
        byteCompressAlgorithm := "none"
        cryptAlgorithm := "none"
        cryptType := "none"
        cryptPasswordMode := "default" } }

def isActive (j : SimJob) : Bool := j.snapshot.state.isActive

def setState (j : SimJob) (state : State) : SimJob :=
  { j with snapshot := { j.snapshot with state } }

/-- One progress step at the moment `now`; a job that is not active stays as it is. -/
def advance (now : Int64) (j : SimJob) : SimJob :=
  if j.isActive then
    let doneCount := min (j.doneCount + entriesPerStep) j.totalCount
    let remaining := j.totalCount - doneCount
    let estimatedRestSeconds := UInt64.ofNat (remaining / entriesPerStep)
    let snapshot := { j.snapshot with estimatedRestSeconds }
    if remaining = 0 then
      { j with doneCount, snapshot := { snapshot with state := .done, lastExecutedAt := now } }
    else { j with doneCount, snapshot }
  else j

def startState (noStorage dryRun : Bool) : State :=
  if dryRun then .dryRunning else if noStorage then .noStorage else .running

def start (j : SimJob) (type : ArchiveType) (noStorage dryRun : Bool) : SimJob :=
  { j with
    snapshot :=
      { j.snapshot with
        archiveType := type
        state := startState noStorage dryRun
        estimatedRestSeconds := UInt64.ofNat (j.totalCount / entriesPerStep) }
    doneCount := 0
    volumeNumber := 0
    requestedVolume := 0 }

theorem isActive_start (j : SimJob) (type : ArchiveType) (noStorage dryRun : Bool) :
    (j.start type noStorage dryRun).isActive = true := by
  cases noStorage <;> cases dryRun <;> rfl

theorem advance_of_not_active (now : Int64) (j : SimJob) (h : j.isActive = false) :
    j.advance now = j := by
  simp [advance, h]

end SimJob

end BackupConsole.Simulation
