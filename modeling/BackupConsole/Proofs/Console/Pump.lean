import BackupConsole.Console
import BackupConsole.Proofs.Polling.Pulse

set_option autoImplicit false

namespace BackupConsole

open Polling

def Polling.Event.rereads : Event → Bool
  | .jobs | .jobInfo _ => true
  | .runState _ | .schedules _ | .fatal _ => false

def Table.reread (t : Table) (roster : Roster) : Table := (t.reconcile roster roster.handles).2

namespace Console

variable (c : Console) (event : Event)

@[simp] theorem poll_apply : (c.apply event).2.poll = c.poll := by
  cases event with
  | jobInfo uuid =>
    unfold apply
    dsimp only
    split <;> rfl
  | jobs | runState _ | schedules _ | fatal _ => rfl

theorem fatal_apply : (c.apply event).2.fatal = event.fatal?.or c.fatal := by
  cases event with
  | jobInfo uuid =>
    unfold apply
    dsimp only
    split <;> rfl
  | jobs | runState _ | schedules _ | fatal _ => rfl

theorem table_apply :
    (c.apply event).2.table = if event.rereads then c.table.reread c.board.roster else c.table := by
  cases event with
  | jobInfo uuid =>
    unfold apply
    dsimp only
    split <;> rfl
  | jobs | runState _ | schedules _ | fatal _ => rfl

theorem poll_applyAll (events : List Event) :
    (events.foldl (fun c event => (c.apply event).2) c).poll = c.poll := by
  induction events generalizing c with
  | nil => rfl
  | cons event events ih => rw [List.foldl_cons, ih, poll_apply]

theorem fatal_applyAll (events : List Event) :
    (events.foldl (fun c event => (c.apply event).2) c).fatal =
      (fatals events).getLast?.or c.fatal := by
  induction events generalizing c with
  | nil => rfl
  | cons event events ih =>
    rw [List.foldl_cons, ih, fatal_apply, fatals, fatals, List.filterMap_cons]
    cases event.fatal? with
    | none => rfl
    | some message =>
      dsimp only
      rw [List.getLast?_cons]
      cases (events.filterMap Event.fatal?).getLast? <;> rfl

theorem table_applyAll (events : List Event) :
    (events.foldl (fun c event => (c.apply event).2) c).table =
      if events.any Event.rereads then c.table.reread c.board.roster else c.table := by
  induction events generalizing c with
  | nil => rfl
  | cons event events ih =>
    have same : (c.apply event).2.board = c.board := congrArg Poll.board (c.poll_apply event)
    rw [List.foldl_cons, ih, table_apply, same, List.any_cons]
    cases event.rereads <;> cases events.any Event.rereads <;> rfl

theorem poll_pump : c.pump.2.poll = { c.poll with events := [] } := poll_applyAll _ _

@[simp] theorem events_pump : c.pump.2.poll.events = [] := by rw [poll_pump]

@[simp] theorem board_pump : c.pump.2.board = c.board := by
  rw [board, poll_pump]
  rfl

theorem fatal_pump : c.pump.2.fatal = (fatals c.poll.events).getLast?.or c.fatal :=
  fatal_applyAll _ _

theorem table_pump :
    c.pump.2.table =
      if c.poll.events.any Event.rereads then c.table.reread c.board.roster else c.table :=
  table_applyAll _ _

theorem poll_applyNext : c.applyNext.2.poll = { c.poll with events := c.poll.events.tail } := by
  unfold applyNext Poll.takeEvent
  cases events : c.poll.events with
  | nil =>
    dsimp only
    rw [List.tail_nil, ← events]
  | cons event rest =>
    dsimp only
    rw [poll_apply, List.tail_cons]

theorem fatal_applyNext :
    c.applyNext.2.fatal = (c.poll.events.head?.bind Event.fatal?).or c.fatal := by
  unfold applyNext Poll.takeEvent
  cases c.poll.events with
  | nil => rfl
  | cons event rest =>
    dsimp only
    rw [fatal_apply]
    rfl

end Console

end BackupConsole
