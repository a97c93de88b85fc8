import BackupConsole.Job.Amount
import BackupConsole.Job.ArchiveType
import BackupConsole.Job.State
import BackupConsole.RunState
import BackupConsole.Time.Calendar
import BackupConsole.Wire.Fields

set_option autoImplicit false

namespace BackupConsole.Job

open Text Number Wire

/-- The host that a job is delegated to; a job of the server itself has no host name. -/
structure SlaveHost where
  name : String := ""
  port : UInt16 := 0
deriving DecidableEq, Repr, Inhabited

/-- One job as the server described it last. A part size of 0 is unlimited, and a job whose last run
is at 0 has never run. -/
structure Snapshot where
  uuid : String := ""
  masterName : String := ""
  name : String := ""
  state : State := .none
  slaveHost : SlaveHost := {}
  slaveState : SlaveState := .offline
  slaveSecure : Bool := false
  archiveType : ArchiveType := .normal
  archivePartSize : UInt64 := 0
  deltaCompressAlgorithm : String := ""
  byteCompressAlgorithm : String := ""
  cryptAlgorithm : String := ""
  cryptType : String := ""
  cryptPasswordMode : String := ""
  lastExecutedAt : Int64 := 0
  estimatedRestSeconds : UInt64 := 0
deriving DecidableEq, Repr, Inhabited

namespace Snapshot

def ofFields (m : Fields) : Except Fault Snapshot :=
  match m.require ["jobUUID"] with
  | .error fault => .error fault
  | .ok () =>
    .ok
      { uuid := m.string "jobUUID" ""
        masterName := m.string "master" ""
        name := m.string "name" ""
        state := m.enumeration State.ofText? "state" .none
        slaveHost :=
          { name := m.string "slaveHostName" ""
            port := m.enumeration readUInt16 "slaveHostPort" 0 }
        slaveState := m.enumeration SlaveState.ofText? "slaveState" .offline
        slaveSecure := m.boolean "slaveTLS" false
        archiveType := m.enumeration ArchiveType.ofText? "archiveType" .normal
        archivePartSize := m.ulong "archivePartSize" 0
        deltaCompressAlgorithm := m.string "deltaCompressAlgorithm" "none"
        byteCompressAlgorithm := m.string "byteCompressAlgorithm" "none"
        cryptAlgorithm := m.string "cryptAlgorithm" "none"
        cryptType := m.string "cryptType" "none"
        cryptPasswordMode := m.string "cryptPasswordMode" "default"
        lastExecutedAt := m.long "lastExecutedDateTime" 0
        estimatedRestSeconds := m.ulong "estimatedRestTime" 0 }

def hint (job : Snapshot) : Hint := job.state.hint

def partSizeText (job : Snapshot) : String :=
  if job.archivePartSize = 0 then "unlimited" else bytesText job.archivePartSize

def inUse (algorithm : String) : Bool :=
  !algorithm.isEmpty && !sameIgnoringCase algorithm.toList "none".toList

def compressionText (job : Snapshot) : String :=
  match inUse job.deltaCompressAlgorithm, inUse job.byteCompressAlgorithm with
  | true, true => job.deltaCompressAlgorithm ++ "+" ++ job.byteCompressAlgorithm
  | true, false => job.deltaCompressAlgorithm
  | false, true => job.byteCompressAlgorithm
  | false, false => "-"

def cryptText (job : Snapshot) : String :=
  if !inUse job.cryptAlgorithm then "-"
  else if sameIgnoringCase job.cryptType.toList "ASYMMETRIC".toList then job.cryptAlgorithm ++ "*"
  else job.cryptAlgorithm

def lastRunText (date? : Int64 → Option String) (job : Snapshot) : String :=
  Time.shownMoment date? job.lastExecutedAt

def lastExecutedText (job : Snapshot) : String := Time.momentText job.lastExecutedAt

def estimatedText (job : Snapshot) : String :=
  if job.estimatedRestSeconds = 0 then "-" else durationText job.estimatedRestSeconds

def slaveText (job : Snapshot) : String :=
  if job.slaveHost.name.isEmpty then ""
  else job.slaveHost.name ++ ":" ++ toString job.slaveHost.port.toNat

def needsCryptPassword (job : Snapshot) : Bool :=
  sameIgnoringCase job.cryptPasswordMode.toList "ask".toList

def displayState (job : Snapshot) : RunState → String
  | .suspended => "suspended"
  | _ => job.state.label

end Snapshot

end BackupConsole.Job
