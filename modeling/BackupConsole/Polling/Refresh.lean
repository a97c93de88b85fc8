import BackupConsole.Polling.Poll
import BackupConsole.Script

/-!
# Refreshes

A refresh of one kind asks the server and stores the answer on the board. It is split at the moment
when the call is under way: `begin?` does what comes before the call and `receive` what comes after
it, so that refreshes may overlap. A kind that is already under way is not asked for again, because
the answer awaited covers it.

Job list, job progress and schedules absorb every failure. The run state tolerates a number of
failures in a row; the next one stops polling for good.
-/

set_option autoImplicit false

namespace BackupConsole.Polling

open Job Wire

/-- The first call of a refresh that is under way. -/
inductive Flight where
  | jobList
  | runState
  | jobStatus (uuid : String)
  | schedules (uuid : String)
deriving DecidableEq, Repr

def Flight.kind : Flight → Kind
  | .jobList => .jobList
  | .runState => .runState
  | .jobStatus _ => .jobInfo
  | .schedules _ => .schedules

def Flight.request : Flight → Request
  | .jobList => { name := "JOB_LIST" }
  | .runState => { name := "STATUS" }
  | .jobStatus uuid => { name := "JOB_STATUS", args := [("jobUUID", uuid)] }
  | .schedules uuid => { name := "SCHEDULE_LIST", args := [("jobUUID", uuid)] }

def detailRequest (uuid : String) : Request := { name := "JOB_INFO", args := [("jobUUID", uuid)] }

def pollCall (request : Request) : Call := ⟨pollLevel, request⟩

abbrev Result := Except Stop Outcome

inductive Progress (κ : Type) where
  | ended (result : Result)
  | waiting (call : κ)
deriving Repr

namespace Poll

/-- The call that a refresh starts with, or why there is none. -/
def firstCall (p : Poll) : Kind → Progress Flight
  | .jobList => .waiting .jobList
  | .runState => if p.terminated then .ended (.error .terminated) else .waiting .runState
  | .jobInfo =>
    match p.board.selected with
    | some uuid => .waiting (.jobStatus uuid)
    | none => .ended (.ok .skipped)
  | .schedules =>
    match p.board.selected with
    | some uuid => .waiting (.schedules uuid)
    | none => .ended (.ok .skipped)

def begin? (p : Poll) (kind : Kind) : Progress Flight × Poll :=
  match p.firstCall kind with
  | .ended result => (.ended result, p)
  | .waiting flight =>
    if p.isBusy kind then (.ended (.ok .coalesced), p) else (.waiting flight, p.occupy kind)

def jobsOf (rows : List Fields) : List Snapshot :=
  rows.filterMap fun row => (Snapshot.ofFields row).toOption

def schedulesOf (rows : List Fields) : List Schedule :=
  rows.filterMap fun row => (Schedule.ofFields row).toOption

def decoded {α : Type} (read : Fields → Except Fault α) (answer : Answer) : Except Failure α :=
  match answer.merged with
  | .error failure => .error failure
  | .ok row =>
    match read row with
    | .error fault => .error (.communication fault)
    | .ok value => .ok value

/-- Stops polling for good; only the first time is announced. -/
def terminate (p : Poll) (stop : Stop) : Poll :=
  if p.terminated then p else { p.emit (.fatal stop.message) with terminated := true }

def receiveJobs (p : Poll) (answer : Answer) : Result × Poll :=
  match answer.outcome with
  | .error _ => (.ok .failed, p)
  | .ok () =>
    let board := { p.board with roster := p.board.roster.replace (jobsOf answer.rows) }
    (.ok .updated, { p with board }.emit .jobs)

def receiveRunState (p : Poll) (answer : Answer) : Result × Poll :=
  match decoded RunState.ofFields answer with
  | .ok state =>
    let (changed, board) := p.board.setRunState state
    let p := { p with board, failures := 0 }
    (.ok .updated, if changed then p.emit (.runState state) else p)
  | .error cause =>
    let failures := p.failures + 1
    let p := { p with failures }
    if p.settings.threshold < failures then
      let stop := Stop.runStateLost failures cause
      (.error stop, p.terminate stop)
    else (.ok .failed, p)

/-- The status of the job `uuid` has been answered; with an answer that can be read, the progress is
asked for next. -/
def receiveStatus (p : Poll) (uuid : String) (answer : Answer) : Progress String × Poll :=
  match decoded Snapshot.ofFields answer with
  | .error _ => (.ended (.ok .failed), p)
  | .ok job =>
    if job.uuid = uuid then
      (.waiting uuid, { p with board := { p.board with roster := p.board.roster.update job } })
    else (.waiting uuid, p)

def storeDetail (p : Poll) (uuid : String) (answer : Answer) : Result × Poll :=
  match answer.merged with
  | .error _ => (.ok .failed, p)
  | .ok row =>
    let (stored, board) := p.board.setDetail (Detail.ofFields uuid row)
    if stored then (.ok .updated, { p with board }.emit (.jobInfo uuid)) else (.ok .skipped, p)

def receiveSchedules (p : Poll) (uuid : String) (answer : Answer) : Result × Poll :=
  match answer.outcome with
  | .error _ => (.ok .failed, p)
  | .ok () =>
    let (stored, board) := p.board.setSchedules uuid (schedulesOf answer.rows)
    if stored then (.ok .updated, { p with board }.emit (.schedules uuid)) else (.ok .skipped, p)

def finish (kind : Kind) (ended : Result × Poll) : Progress String × Poll :=
  (.ended ended.1, ended.2.release kind)

def receive (p : Poll) (flight : Flight) (answer : Answer) : Progress String × Poll :=
  match flight with
  | .jobList => finish .jobList (p.receiveJobs answer)
  | .runState => finish .runState (p.receiveRunState answer)
  | .schedules uuid => finish .schedules (p.receiveSchedules uuid answer)
  | .jobStatus uuid =>
    match p.receiveStatus uuid answer with
    | (.ended result, p) => (.ended result, p.release .jobInfo)
    | (.waiting uuid, p) => (.waiting uuid, p)

def receiveDetail (p : Poll) (uuid : String) (answer : Answer) : Result × Poll :=
  let (result, p) := p.storeDetail uuid answer
  (result, p.release .jobInfo)

end Poll

def land (flight : Flight) : Script Poll Result := do
  let answer ← Script.ask (pollCall flight.request)
  match ← Script.change fun p => p.receive flight answer with
  | .ended result => return result
  | .waiting uuid =>
    let answer ← Script.ask (pollCall (detailRequest uuid))
    Script.change fun p => p.receiveDetail uuid answer

def refresh (kind : Kind) : Script Poll Result := do
  match ← Script.change fun p => p.begin? kind with
  | .ended result => return result
  | .waiting flight => land flight

def refreshTwice (kind : Kind) : Script Poll (Result × Result) := do
  match ← Script.change fun p => p.begin? kind with
  | .ended first =>
    let second ← refresh kind
    return (first, second)
  | .waiting flight =>
    match ← Script.change fun p => p.begin? kind with
    | .ended second =>
      let first ← land flight
      return (first, second)
    | .waiting other =>
      let first ← land flight
      let second ← land other
      return (first, second)

end BackupConsole.Polling
