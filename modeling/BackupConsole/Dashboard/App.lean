import BackupConsole.Console
import BackupConsole.Dashboard.Key

/-!
# The dashboard

The dashboard is a cursor on the job table, a dialog that may be open over it, and a line for the
last message. The job under the cursor is the selected one: before each key the cursor is put on the
row of the selected job, or the job of its row is selected if the old one is gone.
-/

set_option autoImplicit false

namespace BackupConsole.Dashboard

open Text Number Job

inductive Mode where
  | normal
  | startMenu (row : Nat)
  | password (type : ArchiveType) (input : List Char)
  | confirmAbort
  | pause (input : List Char)
  | volume (input : List Char)
  | schedules (row : Nat)
deriving DecidableEq, Repr, Inhabited

def Mode.prompts : Mode → Bool
  | .password _ _ | .pause _ | .volume _ => true
  | _ => false

structure App where
  console : Console
  server : String
  mode : Mode := .normal
  running : Bool := true
  status : Option String := none
  error : Option String := none
  cursor : Nat := 0
deriving Inhabited

namespace App

def cursorJob? (a : App) : Option Snapshot := a.console.table.rows[a.cursor]?.map Row.snapshot

def schedules (a : App) : List Schedule := a.console.board.schedules

def setMode (a : App) (mode : Mode) : App := { a with mode }

def setStatus (a : App) (status : String) : App := { a with status := some status }

def setError (a : App) (error : String) : App := { a with error := some error }

def report (a : App) (success : String) : Except Refusal Effect → App
  | .ok .sent => { a with error := none, status := some success }
  | .ok .skipped => a.setStatus "Nothing to do"
  | .ok (.switched state) => { a with error := none, status := some ("Server " ++ state.label) }
  | .error refusal => a.setError refusal.message

/-- The text of a prompt after an action other than confirming it, or none if it is closed. -/
def edited (allowed : Char → Bool) (input : List Char) : Act → Option (List Char)
  | .back => none
  | .char c => some (if allowed c then input ++ [c] else input)
  | .backspace => some input.dropLast
  | _ => some input

def inConsole {α : Type} (script : Script Console α) : Script App α :=
  script.within App.console fun console a => { a with console }

def order (success : String) (order : Order) : Script App Unit := do
  let result ← inConsole (Console.carryOut order)
  Script.modify fun a => a.report success result

def selectCursor : Script App Unit := do
  let uuid := (← Script.get).cursorJob?.map Snapshot.uuid
  let _ ← inConsole (Console.select uuid)

def sync : Script App Unit := do
  inConsole Console.pumpAll
  let a ← Script.get
  let rows := a.console.table.rows
  if rows.isEmpty then
    if a.console.board.selected.isSome then
      let _ ← inConsole (Console.select none)
  else
    match a.console.board.selected.bind fun uuid => rows.findIdx? fun row => row.uuid == uuid with
    | some index => Script.modify fun a => { a with cursor := index }
    | none =>
      Script.modify fun a => { a with cursor := min a.cursor (rows.length - 1) }
      selectCursor

def prompt (a : App) (open? : List Char → Mode) (input : Option (List Char)) : App :=
  a.setMode (match input with
    | some input => open? input
    | none => .normal)

def typeInRow (row : Nat) : ArchiveType := (ArchiveType.all[row]?).getD .continuous

def start (type : ArchiveType) : Script App Unit := do
  Script.modify fun a => a.setMode .normal
  match ← inConsole (Console.carryOut (.start type false false)) with
  | .error (.passwordRequired _) => Script.modify fun a => a.setMode (.password type [])
  | result => Script.modify fun a => a.report "Job started" result

def actNormal (act : Act) : Script App Unit := do
  let a ← Script.get
  let onJob (script : Script App Unit) : Script App Unit :=
    if a.cursorJob?.isSome then script else pure ()
  match act with
  | .up =>
    if 0 < a.cursor then
      Script.modify fun a => { a with cursor := a.cursor - 1 }
      selectCursor
  | .down =>
    if a.cursor + 1 < a.console.table.rows.length then
      Script.modify fun a => { a with cursor := a.cursor + 1 }
      selectCursor
  | .refresh =>
    match ← inConsole Console.refresh with
    | .error stop => Script.modify fun a => a.setError stop.message
    | .ok () => pure ()
  | .cycleSort =>
    let key := a.console.table.sortKey.next
    Script.modify fun a =>
      { a with console := a.console.setSort key }.setStatus ("Sorted by " ++ key.text)
  | .start => onJob (Script.modify fun a => a.setMode (.startMenu 0))
  | .abort =>
    onJob (if a.console.board.confirmsAbort then Script.modify fun a => a.setMode .confirmAbort
      else order "Job aborted" .abort)
  | .pause => Script.modify fun a => a.setMode (.pause "60".toList)
  | .toggle => order "" .toggle
  | .reset => onJob (order "Job reset" .reset)
  | .loadVolume =>
    let requested := (a.console.board.detail.map Detail.requestedVolumeNumber).getD 0
    onJob (Script.modify fun a => a.setMode (.volume (toString requested.toNat).toList))
  | .unloadVolume => onJob (order "Volume unloaded" .unloadVolume)
  | .schedules =>
    onJob (Script.modify fun a =>
      if a.schedules.isEmpty then a.setStatus "No schedules for this job"
      else a.setMode (.schedules 0))
  | .back => Script.modify fun a => { a with error := none, status := none }
  | _ => pure ()

def actStartMenu (row : Nat) : Act → Script App Unit
  | .up => Script.modify fun a => a.setMode (.startMenu (row - 1))
  | .down =>
    Script.modify fun a => a.setMode (.startMenu (min (row + 1) (ArchiveType.all.length - 1)))
  | .select => start (typeInRow row)
  | .back => Script.modify fun a => a.setMode .normal
  | _ => pure ()

def actPassword (type : ArchiveType) (input : List Char) (act : Act) : Script App Unit :=
  if act = .select then do
    Script.modify fun a => a.setMode .normal
    order "Job started" (.startWithPassword type false false (String.ofList input))
  else
    Script.modify fun a => a.prompt (.password type) (edited (fun c => !isControl c) input act)

def actConfirmAbort (act : Act) : Script App Unit := do
  Script.modify fun a => a.setMode .normal
  if act = .yes ∨ act = .select then
    order "Job aborted" .abort

def actPause (input : List Char) (act : Act) : Script App Unit :=
  if act = .select then do
    Script.modify fun a => a.setMode .normal
    match (readUInt64 input).filter (0 < ·) with
    | some seconds => order "Server paused" (.pause seconds .all)
    | none => Script.modify fun a => a.setError "pause needs a number of seconds"
  else Script.modify fun a => a.prompt .pause (edited Char.isDigit input act)

def actVolume (input : List Char) (act : Act) : Script App Unit :=
  if act = .select then do
    Script.modify fun a => a.setMode .normal
    match readUInt32 input with
    | some number => order "Volume loaded" (.loadVolume number)
    | none => Script.modify fun a => a.setError "invalid volume number"
  else Script.modify fun a => a.prompt .volume (edited Char.isDigit input act)

def actSchedules (row : Nat) (act : Act) : Script App Unit := do
  let schedules := (← Script.get).schedules
  match act with
  | .up => Script.modify fun a => a.setMode (.schedules (row - 1))
  | .down => Script.modify fun a => a.setMode (.schedules (min (row + 1) (schedules.length - 1)))
  | .select =>
    Script.modify fun a => a.setMode .normal
    match schedules[row]? with
    | some schedule => order "Schedule triggered" (.trigger schedule.uuid)
    | none => pure ()
  | .back => Script.modify fun a => a.setMode .normal
  | _ => pure ()

def act (act : Act) : Script App Unit := do
  if act = .quit then
    Script.modify fun a => { a with running := false }
  else
    match (← Script.get).mode with
    | .normal => actNormal act
    | .startMenu row => actStartMenu row act
    | .password type input => actPassword type input act
    | .confirmAbort => actConfirmAbort act
    | .pause input => actPause input act
    | .volume input => actVolume input act
    | .schedules row => actSchedules row act

def handle (input : Input) : Script App (Option Act) := do
  let action := input.act (← Script.get).mode.prompts
  match action with
  | some a => act a
  | none => pure ()
  return action

end App

end BackupConsole.Dashboard
