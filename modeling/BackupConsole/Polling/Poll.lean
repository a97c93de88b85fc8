import BackupConsole.Board
import BackupConsole.Wire.Answer

set_option autoImplicit false

namespace BackupConsole.Polling

open Wire

structure Settings where
  /-- The time between two cycles, in milliseconds. -/
  interval : UInt64 := 1000
  jobListEvery : UInt32 := 10
  /-- How many failures to read the run state in a row are tolerated. -/
  threshold : UInt32 := 5
deriving DecidableEq, Repr, Inhabited

inductive Event where
  | jobs
  | runState (state : RunState)
  | jobInfo (uuid : String)
  | schedules (uuid : String)
  | fatal (message : String)
deriving DecidableEq, Repr

inductive Stop where
  | runStateLost (failures : UInt32) (cause : Failure)
  | alreadyStarted
  | terminated
deriving DecidableEq, Repr

def Stop.message : Stop → String
  | .runStateLost failures cause =>
    "lost server run state after " ++ toString failures.toNat ++ " consecutive failures: " ++
      cause.message
  | .alreadyStarted => "poller already started"
  | .terminated => "polling stopped after a fatal error"

inductive Kind where
  | jobList
  | runState
  | jobInfo
  | schedules
deriving DecidableEq, Repr

inductive Outcome where
  | updated
  /-- Another refresh of the same kind was under way. -/
  | coalesced
  | skipped
  /-- The server could not be asked; the failure goes no further. -/
  | failed
deriving DecidableEq, Repr

structure Poll where
  settings : Settings := {}
  board : Board := {}
  busy : List Kind := []
  /-- Failures to read the run state since the last success. -/
  failures : UInt32 := 0
  started : Bool := false
  terminated : Bool := false
  events : List Event := []
deriving DecidableEq, Repr, Inhabited

namespace Poll

def emit (p : Poll) (event : Event) : Poll := { p with events := p.events ++ [event] }

def isBusy (p : Poll) (kind : Kind) : Bool := p.busy.contains kind

def occupy (p : Poll) (kind : Kind) : Poll := { p with busy := kind :: p.busy }

def release (p : Poll) (kind : Kind) : Poll := { p with busy := p.busy.erase kind }

def takeEvent (p : Poll) : Option (Event × Poll) :=
  match p.events with
  | [] => none
  | event :: events => some (event, { p with events })

end Poll

end BackupConsole.Polling
