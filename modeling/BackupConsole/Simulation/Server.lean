import BackupConsole.Simulation.Rows
import BackupConsole.Text.Hex
import BackupConsole.Wire.Answer

/-!
# The simulated server

A server in memory that answers the same commands as a real one. Its rows are written as result
lines and decoded again, so that its answers are those that a connection would deliver. A command
that is rejected changes nothing but the log of commands.
-/

set_option autoImplicit false

namespace BackupConsole.Simulation

open Job Wire Number

/-- A failure that is injected for the next commands of one name. -/
structure Injection where
  command : String
  times : Nat
  failure : Failure
deriving DecidableEq, Repr

structure Server where
  jobs : List SimJob := []
  runState : RunState := .running
  offline : Bool := false
  injections : List Injection := []
  commands : List String := []
deriving DecidableEq, Repr, Inhabited

structure Rejection where
  code : UInt32
  data : String
deriving DecidableEq, Repr

def Rejection.line (id : UInt64) (r : Rejection) : ResultLine :=
  ⟨id, true, r.code, "errno=0 message=" ++ quote r.data⟩

/-- The rows of an accepted command with the server after it, or a rejection. -/
abbrev Reply := Except Rejection (List String × Server)

namespace Server

def findJob? (s : Server) (uuid : String) : Option SimJob :=
  s.jobs.find? fun job => job.snapshot.uuid == uuid

def setFirst (uuid : String) (job : SimJob) : List SimJob → List SimJob
  | [] => []
  | first :: rest =>
    if first.snapshot.uuid = uuid then job :: rest else first :: setFirst uuid job rest

def setJob (s : Server) (uuid : String) (job : SimJob) : Server :=
  { s with jobs := setFirst uuid job s.jobs }

def jobUUID (r : Request) : String := (r.get? "jobUUID").getD ""

def onJob (s : Server) (r : Request) (act : SimJob → Except Rejection (List String × SimJob)) :
    Reply :=
  let uuid := jobUUID r
  match s.findJob? uuid with
  | none => .error ⟨10, uuid⟩
  | some job =>
    match act job with
    | .error rejection => .error rejection
    | .ok (rows, job) => .ok (rows, s.setJob uuid job)

def countDown : RunState → RunState
  | .paused remaining => if remaining ≤ 1 then .running else .paused (remaining - 1)
  | state => state

/-- The run state is asked for: a pause runs down, and on a running server all jobs advance. -/
def status (now : Int64) (s : Server) : Server :=
  let runState := countDown s.runState
  if runState = .running then { s with runState, jobs := s.jobs.map (SimJob.advance now) }
  else { s with runState }

def startJob (job : SimJob) (type : ArchiveType) (noStorage dryRun : Bool) :
    Except Rejection (List String × SimJob) :=
  if job.isActive then .error ⟨11, job.snapshot.name⟩
  else if job.snapshot.needsCryptPassword && job.password.isNone then
    .error ⟨15, job.snapshot.name⟩
  else .ok ([], job.start type noStorage dryRun)

def triggerJob (job : SimJob) (schedule : String) : Except Rejection (List String × SimJob) :=
  match job.schedules.find? fun s => s.uuid == schedule with
  | none => .error ⟨13, schedule⟩
  | some s =>
    if job.isActive then .error ⟨11, job.snapshot.name⟩
    else .ok ([], job.start s.archiveType false false)

def abortJob (job : SimJob) : Except Rejection (List String × SimJob) :=
  if job.snapshot.hint = .active ∨ job.snapshot.hint = .needsAttention then
    let snapshot := { job.snapshot with state := .aborted, estimatedRestSeconds := 0 }
    .ok ([], { job with snapshot })
  else .error ⟨12, job.snapshot.name⟩

def resetJob (job : SimJob) : Except Rejection (List String × SimJob) :=
  if job.isActive then .error ⟨11, job.snapshot.name⟩
  else .ok ([], { job.setState .none with doneCount := 0, password := none })

def loadVolume (job : SimJob) (number : UInt32) : Except Rejection (List String × SimJob) :=
  if job.snapshot.state ≠ .requestVolume ∨ number ≠ job.requestedVolume then
    .error ⟨16, "volume " ++ toString number.toNat⟩
  else .ok ([], { job.setState .running with volumeNumber := number })

def unloadVolume (job : SimJob) : SimJob :=
  if job.isActive then
    { job.setState .requestVolume with requestedVolume := job.volumeNumber + 1 }
  else job

def storePassword (job : SimJob) (password : String) : SimJob :=
  let job := { job with password := some password }
  if job.snapshot.state = .requestCryptPassword then job.setState .running else job

/-- The password of a command, if its digits stand for a text that is not empty. -/
def password? (r : Request) : Option String :=
  ((r.get? "encryptedPassword").bind Text.ofHex?).filter fun p => !p.isEmpty

def handle (now : Int64) (s : Server) (r : Request) : Reply :=
  match r.name with
  | "JOB_LIST" => .ok (s.jobs.map fun job => jobRow job.snapshot, s)
  | "STATUS" =>
    let s := s.status now
    .ok ([runStateRow s.runState], s)
  | "JOB_STATUS" => s.onJob r fun job => .ok ([jobRow job.snapshot], job)
  | "JOB_INFO" =>
    s.onJob r fun job =>
      let job := if s.runState = .running then job.advance now else job
      .ok ([detailRow job], job)
  | "SCHEDULE_LIST" => s.onJob r fun job => .ok (job.schedules.map scheduleRow, job)
  | "SCHEDULE_TRIGGER" => s.onJob r fun job => triggerJob job ((r.get? "scheduleUUID").getD "")
  | "JOB_START" =>
    let type := (r.get? "archiveType").getD "normal"
    match ArchiveType.ofText? type.toList with
    | none => .error ⟨3, ArchiveType.unknownText type⟩
    | some archiveType =>
      s.onJob r fun job =>
        startJob job archiveType (r.get? "noStorage" == some "yes") (r.get? "dryRun" == some "yes")
  | "JOB_ABORT" => s.onJob r abortJob
  | "JOB_RESET" => s.onJob r resetJob
  | "PAUSE" =>
    match (r.get? "time").bind fun time => readUInt64 time.toList with
    | none => .error ⟨3, "time"⟩
    | some seconds =>
      if ((r.get? "modeMask").getD "").isEmpty then .error ⟨3, "modeMask"⟩
      else .ok ([], { s with runState := .paused seconds })
  | "SUSPEND" => .ok ([], { s with runState := .suspended })
  | "CONTINUE" => .ok ([], { s with runState := .running })
  | "VOLUME_LOAD" =>
    match (r.get? "volumeNumber").bind fun number => readUInt32 number.toList with
    | none => .error ⟨3, "volumeNumber"⟩
    | some number => s.onJob r fun job => loadVolume job number
  | "VOLUME_UNLOAD" => s.onJob r fun job => .ok ([], unloadVolume job)
  | "CRYPT_PASSWORD" =>
    if r.get? "encryptType" ≠ some "NONE" then .error ⟨3, "encryptType"⟩
    else
      match password? r with
      | none => .error ⟨14, ""⟩
      | some password => s.onJob r fun job => .ok ([], storePassword job password)
  | name => .error ⟨2, name⟩

def takeInjection (s : Server) (command : String) : Option (Failure × Server) :=
  match s.injections.find? fun i => i.command == command with
  | none => none
  | some i =>
    let rest := s.injections.filter fun other => other.command != command
    let injections := if i.times ≤ 1 then rest else { i with times := i.times - 1 } :: rest
    some (i.failure, { s with injections })

/-- The rows of a command or its failure. Every command is logged; an offline server and an injected
failure come before the command itself. -/
def respond (now : Int64) (s : Server) (r : Request) : Except Failure (List String) × Server :=
  let s := { s with commands := s.commands ++ [r.text] }
  if s.offline then (.error (.connection "simulated server offline"), s)
  else
    match s.takeInjection r.name with
    | some (failure, s) => (.error failure, s)
    | none =>
      match s.handle now r with
      | .error rejection => (.error (rejection.line 0).toFailure, s)
      | .ok (rows, s) => (.ok rows, s)

/-- The rows after they have been written as result lines and read again. -/
def deliver : List String → Answer
  | [] => {}
  | data :: rest =>
    match ResultLine.parse (ResultLine.mk 0 false 0 data).encode with
    | .error fault => .failed (.communication fault)
    | .ok line =>
      match Fields.parse line.data with
      | .error fault => .failed (.communication fault)
      | .ok row =>
        let answer := deliver rest
        { answer with rows := row :: answer.rows }

def answer (now : Int64) (r : Request) (s : Server) : Answer × Server :=
  match s.respond now r with
  | (.error failure, s) => (.failed failure, s)
  | (.ok rows, s) => (deliver rows, s)

def addJob (s : Server) (uuid name : String) (state : State) : Server :=
  { s with jobs := s.jobs ++ [SimJob.new uuid name state] }

def changeJob (s : Server) (uuid : String) (f : SimJob → SimJob) : Server :=
  match s.findJob? uuid with
  | none => s
  | some job => s.setJob uuid (f job)

def removeJob (s : Server) (uuid : String) : Server :=
  { s with jobs := s.jobs.filter fun job => job.snapshot.uuid != uuid }

def setOverrides (s : Server) (uuid : String) (overrides : List (String × String)) : Server :=
  s.changeJob uuid fun job => { job with overrides }

def addSchedule (s : Server) (uuid : String) (schedule : Schedule) : Server :=
  s.changeJob uuid fun job => { job with schedules := job.schedules ++ [schedule] }

/-- Lets the next commands of this name fail; an earlier injection for the name is replaced. -/
def inject (s : Server) (command : String) (times : Nat) (failure : Failure) : Server :=
  if times = 0 then s
  else
    let rest := s.injections.filter fun other => other.command != command
    { s with injections := ⟨command, times, failure⟩ :: rest }

def count (s : Server) (name : String) : Nat :=
  (s.commands.filter fun text => text.toList.takeWhile (· ≠ ' ') == name.toList).length

end Server

end BackupConsole.Simulation
