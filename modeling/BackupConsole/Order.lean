import BackupConsole.Order.PauseModes
import BackupConsole.Order.Refusal
import BackupConsole.Polling.Cycle

/-!
# Orders

An order is what the user wants done to the selected job or to the server. It is planned on the
board first: either it is refused, or it comes down to a list of commands. The commands are sent
once, in order, as long as the server accepts them, and then everything is refreshed, so that the
effect shows at once. No outcome of that refresh undoes the order.
-/

set_option autoImplicit false

namespace BackupConsole

open Text Job Wire Polling

/-- What the user wants done. All but the last two orders are about the selected job. -/
inductive Order where
  | start (type : ArchiveType) (noStorage dryRun : Bool)
  | startWithPassword (type : ArchiveType) (noStorage dryRun : Bool) (password : String)
  | abort
  | reset
  | loadVolume (number : UInt32)
  | unloadVolume
  | trigger (schedule : String)
  | pause (seconds : UInt64) (modes : PauseModes)
  | toggle
deriving DecidableEq, Repr

/-- Starts the selected job in this mode; a password that is given goes first. -/
def Order.starting (type : ArchiveType) (noStorage dryRun : Bool) : Option String → Order
  | none => .start type noStorage dryRun
  | some password => .startWithPassword type noStorage dryRun password

inductive Effect where
  | sent
  | skipped
  | switched (state : RunState)
deriving DecidableEq, Repr

structure Errand where
  action : Action
  request : Request
deriving DecidableEq, Repr

structure Plan where
  errands : List Errand
  effect : Effect := .sent
deriving DecidableEq, Repr

/-- The text can stand bare on a request line. -/
def isToken (s : String) : Bool :=
  !s.isEmpty && s.toList.all fun c => !(isBlank c || isControl c)

def jobRequest (name : String) (job : Snapshot) (args : List (String × String)) : Request :=
  { name, args := ("jobUUID", job.uuid) :: args }

def startErrand (job : Snapshot) (type : ArchiveType) (noStorage dryRun : Bool) : Errand :=
  { action := .job .start job.name
    request := ((jobRequest "JOB_START" job [("archiveType", type.name)]).flag "noStorage"
      noStorage).flag "dryRun" dryRun }

def passwordErrand (job : Snapshot) (password : String) : Errand :=
  { action := .job .setPassword job.name
    request := jobRequest "CRYPT_PASSWORD" job
      [("encryptType", "NONE"), ("encryptedPassword", toHex password)] }

def jobPlan (action : JobAction) (name : String) (job : Snapshot)
    (args : List (String × String)) : Plan :=
  { errands := [{ action := .job action job.name, request := jobRequest name job args }] }

def Board.withSelected (b : Board) (plan : Snapshot → Except Refusal Plan) : Except Refusal Plan :=
  match b.selectedJob? with
  | some job => plan job
  | none => .error .noJobSelected

def Board.confirmsAbort (b : Board) : Bool :=
  b.selectedJob?.any fun job => job.state == .running

def Order.plan (b : Board) : Order → Except Refusal Plan
  | .start type noStorage dryRun =>
    b.withSelected fun job =>
      if job.needsCryptPassword then .error (.passwordRequired job.name)
      else .ok { errands := [startErrand job type noStorage dryRun] }
  | .startWithPassword type noStorage dryRun password =>
    b.withSelected fun job =>
      .ok { errands := [passwordErrand job password, startErrand job type noStorage dryRun] }
  | .abort => b.withSelected fun job => .ok (jobPlan .abort "JOB_ABORT" job [])
  | .reset => b.withSelected fun job => .ok (jobPlan .reset "JOB_RESET" job [])
  | .loadVolume number =>
    b.withSelected fun job =>
      .ok (jobPlan .loadVolume "VOLUME_LOAD" job [("volumeNumber", toString number.toNat)])
  | .unloadVolume => b.withSelected fun job => .ok (jobPlan .unloadVolume "VOLUME_UNLOAD" job [])
  | .trigger schedule =>
    if isToken schedule then
      b.withSelected fun job =>
        .ok (jobPlan .trigger "SCHEDULE_TRIGGER" job [("scheduleUUID", schedule)])
    else .error (.invalidArgument "schedule UUID" schedule)
  | .pause seconds modes =>
    if modes.isEmpty then .ok { errands := [], effect := .skipped }
    else
      .ok
        { errands :=
            [{ action := .server .pause
               request :=
                 { name := "PAUSE"
                   args := [("time", toString seconds.toNat), ("modeMask", modes.mask)] } }] }
  | .toggle =>
    match b.runState with
    | .running =>
      .ok
        { errands := [{ action := .server .suspend, request := { name := "SUSPEND" } }]
          effect := .switched .suspended }
    | .paused _ | .suspended =>
      .ok
        { errands := [{ action := .server .resume, request := { name := "CONTINUE" } }]
          effect := .switched .running }

/-- The commands are sent one after another until one is not accepted. -/
def sendAll : List Errand → Script Poll (Except Refusal Unit)
  | [] => pure (.ok ())
  | errand :: rest => do
    let answer ← Script.ask ⟨commandLevel, errand.request⟩
    match answer.merged with
    | .error cause => return .error (.command errand.action cause)
    | .ok _ => sendAll rest

/-- Plans an order, sends its commands and refreshes everything. -/
def Order.carryOut (order : Order) : Script Poll (Except Refusal Effect) := do
  match order.plan (← Script.get).board with
  | .error refusal => return .error refusal
  | .ok plan =>
    if plan.errands.isEmpty then return .ok plan.effect
    match ← sendAll plan.errands with
    | .error refusal => return .error refusal
    | .ok () =>
      let _ ← refreshAll
      return .ok plan.effect

end BackupConsole
