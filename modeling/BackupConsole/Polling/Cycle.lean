import BackupConsole.Polling.Refresh

set_option autoImplicit false

namespace BackupConsole.Polling

def cycle (withJobList : Bool) : Script Poll (Except Stop Unit) := do
  if (← Script.get).terminated then
    return .error .terminated
  if withJobList then
    let _ ← refresh .jobList
  match ← refresh .runState with
  | .error stop => return .error stop
  | .ok _ =>
    let _ ← refresh .jobInfo
    return .ok ()

def refreshAll : Script Poll (Except Stop Unit) := cycle true

def Settings.listsJobs (s : Settings) (number : UInt64) : Bool :=
  number.toNat % max s.jobListEvery.toNat 1 = 0

end BackupConsole.Polling
