import BackupConsole.Job.Amount
import BackupConsole.Wire.Fields

set_option autoImplicit false

namespace BackupConsole

open Text Wire

inductive RunState where
  | running
  | paused (remaining : UInt64)
  | suspended
deriving DecidableEq, Repr, Inhabited

namespace RunState

def ofFields (m : Fields) : Except Fault RunState :=
  match m.require ["state"] with
  | .error fault => .error fault
  | .ok () =>
    match lower (m.string "state" "") with
    | "running" => .ok .running
    | "pause" | "paused" => .ok (.paused (m.ulong "time" 0))
    | "suspended" => .ok .suspended
    | name => .error (.unknownRunState name)

def label : RunState → String
  | .running => "running"
  | .paused remaining => "paused (" ++ Job.durationText remaining ++ ")"
  | .suspended => "suspended"

def toggleLabel : RunState → String
  | .running => "Suspend"
  | .paused _ | .suspended => "Continue"

end RunState

end BackupConsole
