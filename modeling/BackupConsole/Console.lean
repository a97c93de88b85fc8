import BackupConsole.Observers
import BackupConsole.Order
import BackupConsole.Table

/-!
# The console

The console is what its user works with: it takes the announcements of polling one by one, brings
the table in line with the roster and tells the observers about the selected job. Polling in the
background is a loop of cycles on a clock that only moves when time is said to pass.
-/

set_option autoImplicit false

namespace BackupConsole

open Job Polling

structure News where
  job : Snapshot
  detail : Option Detail
deriving DecidableEq, Repr

/-- The background loop: the number of its next cycle and the time until then in milliseconds. -/
structure Loop where
  number : UInt64 := 0
  due : Nat := 0
deriving DecidableEq, Repr

structure Console where
  poll : Poll := {}
  table : Table := {}
  observers : Observers String := {}
  /-- The news delivered so far, the oldest first, each with the label of its listener. -/
  delivered : List (String × News) := []
  fatal : Option String := none
  loop : Option Loop := none
  stopped : Bool := false
deriving Inhabited

namespace Console

def new (settings : Settings) (sortKey : SortKey) : Console :=
  { poll := { settings }, table := { sortKey } }

def board (c : Console) : Board := c.poll.board

def reconcile (c : Console) : RowDiff × Console :=
  let (diff, table) := c.table.reconcile c.board.roster c.board.roster.handles
  (diff, { c with table })

def newsOf? (c : Console) (uuid : String) : Option News :=
  if c.board.selected = some uuid then
    (c.board.roster.job? uuid).map fun job => ⟨job, c.board.detail⟩
  else none

def deliver (c : Console) (news : News) : Console :=
  { c with delivered := c.delivered ++ c.observers.audience.map fun label => (label, news) }

/-- One announcement is applied; the changes of the table, if it looked at the roster. -/
def apply (c : Console) : Event → Option RowDiff × Console
  | .jobs =>
    let (diff, c) := c.reconcile
    (some diff, c)
  | .jobInfo uuid =>
    let (diff, c) := c.reconcile
    match c.newsOf? uuid with
    | some news => (some diff, c.deliver news)
    | none => (some diff, c)
  | .runState _ | .schedules _ => (none, c)
  | .fatal message => (none, { c with fatal := some message })

def applyNext (c : Console) : Option (Event × Option RowDiff) × Console :=
  match c.poll.takeEvent with
  | none => (none, c)
  | some (event, poll) =>
    let (diff, c) := { c with poll }.apply event
    (some (event, diff), c)

def pump (c : Console) : Bool × Console :=
  let emptied := { c with poll := { c.poll with events := [] } }
  (!c.poll.events.isEmpty, c.poll.events.foldl (fun c event => (c.apply event).2) emptied)

def setSort (c : Console) (key : SortKey) : Console := { c with table := c.table.setSort key }

def polling {α : Type} (script : Script Poll α) : Script Console α :=
  script.within Console.poll fun poll c => { c with poll }

def pumpAll : Script Console Unit := Script.modify fun c => c.pump.2

def refresh : Script Console (Except Stop Unit) := do
  let result ← polling refreshAll
  pumpAll
  return result

/-- Selects a job or none; whether that is another selection. The schedules and the progress of a
newly selected job are fetched. -/
def select (uuid : Option String) : Script Console Bool := do
  let changed ← Script.change fun c =>
    let (changed, board) := c.board.select uuid
    (changed, { c with poll := { c.poll with board } })
  if changed then
    if uuid.isSome then
      let _ ← polling (Polling.refresh .schedules)
      let _ ← polling (Polling.refresh .jobInfo)
    pumpAll
  return changed

def carryOut (order : Order) : Script Console (Except Refusal Effect) :=
  polling order.carryOut

def subscribe (c : Console) (label : String) : Nat × Console :=
  let (id, observers) := c.observers.subscribe label
  (id, { c with observers })

def unsubscribe (c : Console) (id : Nat) : Bool × Console :=
  let (removed, observers) := c.observers.unsubscribe id
  (removed, { c with observers })

def start (c : Console) : Except Stop Unit × Console :=
  if c.poll.started then (.error .alreadyStarted, c)
  else
    let poll := { c.poll with started := true }
    (.ok (), { c with poll, loop := if c.stopped then none else some {} })

def stop (c : Console) : Console := { c with loop := none, stopped := true }

def loopCycle (number : UInt64) (wait : Nat) : Script Console Unit := do
  let settings := (← Script.get).poll.settings
  match ← polling (cycle (settings.listsJobs number)) with
  | .error _ => Script.modify fun c => { c with loop := none }
  | .ok () => Script.modify fun c => { c with loop := some ⟨number + 1, wait⟩ }

def elapseWithin : (fuel : Nat) → (time : Nat) → Script Console Unit
  | 0, _ => pure ()
  | fuel + 1, time => do
    let c ← Script.get
    match c.loop with
    | none => return
    | some loop =>
      if time < loop.due then
        Script.modify fun c => { c with loop := some { loop with due := loop.due - time } }
      else
        loopCycle loop.number (max c.poll.settings.interval.toNat 1)
        elapseWithin fuel (time - loop.due)

/-- A number of milliseconds passes. A cycle is due at the latest moment too. -/
def elapse (time : Nat) : Script Console Unit := elapseWithin (time + 2) time

def displayState (c : Console) (job : Snapshot) : String := job.displayState c.board.runState

end Console

end BackupConsole
