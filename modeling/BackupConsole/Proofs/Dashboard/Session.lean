import BackupConsole.Dashboard.App
import BackupConsole.Proofs.Console.Agreement

set_option autoImplicit false

namespace BackupConsole.Dashboard

open Wire Polling Step

inductive Turn where
  | sync
  | act (act : Act)
  | polling (strides : List Stride)

namespace App

def onPoll (f : Poll → Poll) (a : App) : App := { a with console := a.console.onPoll f }

theorem console_with (c : Console) (a : App) : App.console { a with console := c } = c := rfl

theorem with_with (c d : Console) (a : App) :
    ({ ({ a with console := d } : App) with console := c } : App) = { a with console := c } := rfl

theorem serving_onPoll (server : Responses) (call : Call) (sent : List Call) (a : App) :
    serving onPoll server call sent a =
      ((serving Console.onPoll server call sent a.console).1,
        (serving Console.onPoll server call sent a.console).2.1,
        { a with console := (serving Console.onPoll server call sent a.console).2.2 }) := rfl

theorem run_inConsole {α : Type} (script : Script Console α) (server : Responses) (a : App)
    (sent : List Call) :
    (inConsole script a).runWith (serving onPoll server) sent =
      (((script a.console).runWith (serving Console.onPoll server) sent).1,
        { a with
          console := ((script a.console).runWith (serving Console.onPoll server) sent).2.1 },
        ((script a.console).runWith (serving Console.onPoll server) sent).2.2) :=
  runWith_within console_with with_with (serving_onPoll server) (script a.console) a sent

end App

namespace Turn

def script : Turn → Script App Unit
  | .sync => App.sync
  | .act a => App.act a
  | .polling strides => Script.modify (App.onPoll fun p => p.strides strides)

def play (turn : Turn) (server : Responses) (a : App) : App × List Call :=
  ((turn.script a).runWith (serving App.onPoll server) []).2

end Turn

/-! ## Invariants of the console -/

section

variable {I : Console → Prop}

theorem keeps_inConsole {α : Type} {script : Script Console α} (keeps : script.Keeps I) :
    (App.inConsole script).Keeps fun a => I a.console := keeps.within App.console_with

theorem keeps_aside {f : App → App} (same : ∀ a, (f a).console = a.console) :
    (Script.modify f).Keeps fun a => I a.console := by
  refine Script.keeps_modify fun a holds => ?_
  rw [same]
  exact holds

theorem console_report (a : App) (success : String) (result : Except Refusal Effect) :
    (a.report success result).console = a.console := by
  cases result with
  | error refusal => rfl
  | ok effect => cases effect <;> rfl

theorem keeps_order (success : String) (order : Order)
    (keeps : (Console.carryOut order).Keeps I) :
    (App.order success order).Keeps fun a => I a.console :=
  (keeps_inConsole keeps).bind fun result => keeps_aside fun a => console_report a success result

end

def App.Agreed (a : App) : Prop := a.console.Agreed

theorem App.agreed_new (settings : Settings) (key : SortKey) (server : String) :
    Agreed { console := Console.new settings key, server } := Console.Agreed.new settings key

theorem keeps_carryOut (order : Order) : (Console.carryOut order).Keeps Console.Agreed :=
  Console.keeps_carryOut (fun agreed => agreed.moved) order

theorem keeps_cursor (f : App → Nat) :
    (Script.modify fun a : App => { a with cursor := f a }).Keeps App.Agreed :=
  keeps_aside fun _ => rfl

theorem keeps_setMode (mode : Mode) :
    (Script.modify fun a : App => a.setMode mode).Keeps App.Agreed := keeps_aside fun _ => rfl

theorem keeps_selectCursor : App.selectCursor.Keeps App.Agreed :=
  Script.keeps_get.bind fun _ =>
    (keeps_inConsole (Console.keeps_select _)).bind fun _ => Script.keeps_pure ()

theorem keeps_sync : App.sync.Keeps App.Agreed := by
  refine (keeps_inConsole Console.keeps_pumpAll).bind fun _ => Script.keeps_get.bind fun a => ?_
  dsimp only
  split
  · split
    · exact (keeps_inConsole (Console.keeps_select none)).bind fun _ => Script.keeps_pure ()
    · exact Script.keeps_pure ()
  · split
    · exact keeps_aside fun _ => rfl
    · exact (keeps_cursor _).bind fun _ => keeps_selectCursor

theorem keeps_actNormal (act : Act) : (App.actNormal act).Keeps App.Agreed := by
  have order (success : String) (order : Order) : (App.order success order).Keeps App.Agreed :=
    keeps_order success order (keeps_carryOut order)
  refine Script.keeps_get.bind fun a => ?_
  have onJob {script : Script App Unit} (keeps : script.Keeps App.Agreed) :
      (if a.cursorJob?.isSome then script else pure ()).Keeps App.Agreed := by
    split
    · exact keeps
    · exact Script.keeps_pure ()
  cases act with
  | up | down =>
    dsimp only
    split
    · exact (keeps_cursor _).bind fun _ => keeps_selectCursor
    · exact Script.keeps_pure ()
  | refresh =>
    refine (keeps_inConsole Console.keeps_refresh).bind fun result => ?_
    cases result with
    | error stop => exact keeps_aside fun _ => rfl
    | ok done => exact Script.keeps_pure ()
  | cycleSort =>
    exact Script.keeps_modify fun b agreed => Console.Agreed.setSort (c := b.console) agreed _
  | start | loadVolume => exact onJob (keeps_aside fun _ => rfl)
  | abort =>
    refine onJob ?_
    split
    · exact keeps_aside fun _ => rfl
    · exact order _ _
  | pause | back => exact keeps_aside fun _ => rfl
  | toggle => exact order _ _
  | reset | unloadVolume => exact onJob (order _ _)
  | schedules =>
    refine onJob (keeps_aside fun b => ?_)
    split <;> rfl
  | _ => exact Script.keeps_pure ()

/-! ## Dialogs -/

def Mode.aboutJob : Mode → Bool
  | .normal | .pause _ => false
  | .startMenu _ | .password _ _ | .confirmAbort | .volume _ | .schedules _ => true

/-- In a dialog about the selected job the user does something to the dashboard alone, or gives one
order about the job. -/
inductive InDialog (a : App) : Step App Unit → Prop where
  | aside (b : App) (same : b.console = a.console) : InDialog a (.done () b)
  | orders (order : Order) (aboutJob : order.aboutServer = false) (b : App)
      (same : b.console = a.console) (finish : Except Refusal Effect → App → App)
      (aside : ∀ result b, (finish result b).console = b.console) :
      InDialog a ((App.inConsole (Console.carryOut order) b).bind fun result =>
        Script.modify (finish result))

theorem console_setMode (a : App) (mode : Mode) : (a.setMode mode).console = a.console := rfl

theorem inDialog_close (a : App) (success : String) (order : Order)
    (aboutJob : order.aboutServer = false) :
    InDialog a (App.order success order (a.setMode .normal)) :=
  .orders order aboutJob (a.setMode .normal) (console_setMode a _)
    (fun result b => b.report success result) fun result b => console_report b success result

def afterStart (type : Job.ArchiveType) (result : Except Refusal Effect) (a : App) : App :=
  match result with
  | .error (.passwordRequired _) => a.setMode (.password type [])
  | result => a.report "Job started" result

theorem inDialog_start (a : App) (type : Job.ArchiveType) : InDialog a (App.start type a) := by
  have aside (result : Except Refusal Effect) (b : App) :
      (afterStart type result b).console = b.console := by
    unfold afterStart
    split
    · rfl
    · exact console_report b _ _
  have same : App.start type a =
      (App.inConsole (Console.carryOut (.start type false false)) (a.setMode .normal)).bind
        fun result => Script.modify (afterStart type result) := by
    rw [App.start, Script.bind_apply, Script.modify, Step.bind, Script.bind_apply]
    congr 1
    funext result
    cases result with
    | ok effect => rfl
    | error refusal => cases refusal <;> rfl
  rw [same]
  exact .orders (.start type false false) rfl (a.setMode .normal) (console_setMode a _)
    (afterStart type) aside

theorem inDialog_act {a : App} (dialog : a.mode.aboutJob = true) (act : Act) :
    InDialog a (App.act act a) := by
  -- Case by case over the dialogs: only the key that closes one with an order makes calls.
  unfold App.act
  split
  · exact .aside _ rfl
  · rw [Script.bind_apply, Script.get, Step.bind]
    cases mode : a.mode with
    | normal | pause _ =>
      rw [mode] at dialog
      cases dialog
    | startMenu row =>
      cases act with
      | select => exact inDialog_start a _
      | _ => exact .aside _ rfl
    | password type input =>
      dsimp only
      unfold App.actPassword
      split
      · exact inDialog_close a _ (.startWithPassword type false false (String.ofList input)) rfl
      · exact .aside _ rfl
    | confirmAbort =>
      dsimp only
      unfold App.actConfirmAbort
      rw [Script.bind_apply, Script.modify, Step.bind]
      split
      · exact inDialog_close a _ .abort rfl
      · exact .aside _ rfl
    | volume input =>
      dsimp only
      unfold App.actVolume
      split
      · rw [Script.bind_apply, Script.modify, Step.bind]
        cases Number.readUInt32 input with
        | some number => exact inDialog_close a _ (.loadVolume number) rfl
        | none => exact .aside _ rfl
      · exact .aside _ rfl
    | schedules row =>
      dsimp only
      unfold App.actSchedules
      rw [Script.bind_apply, Script.get, Step.bind]
      cases act with
      | select =>
        dsimp only
        rw [Script.bind_apply, Script.modify, Step.bind]
        cases a.schedules[row]? with
        | some schedule => exact inDialog_close a _ (.trigger schedule.uuid) rfl
        | none => exact .aside _ rfl
      | _ => exact .aside _ rfl

theorem InDialog.keeps {I : Console → Prop} {a : App} {step : Step App Unit} (dialog : InDialog a step)
    (keeps : ∀ order, (Console.carryOut order).Keeps I) (holds : I a.console) :
    step.Keeps fun a => I a.console := by
  cases dialog with
  | aside b same =>
    change I b.console
    rw [same]
    exact holds
  | orders order aboutJob b same finish aside =>
    have start : I b.console := by
      rw [same]
      exact holds
    exact (keeps_inConsole (keeps order) b start).bind fun result => keeps_aside (aside result)

/-! ## Turns -/

theorem keeps_actPause (input : List Char) (act : Act) :
    (App.actPause input act).Keeps App.Agreed := by
  unfold App.actPause
  split
  · refine (keeps_setMode _).bind fun _ => ?_
    cases (Number.readUInt64 input).filter (0 < ·) with
    | some seconds => exact keeps_order _ _ (keeps_carryOut _)
    | none => exact keeps_aside fun _ => rfl
  · exact keeps_aside fun _ => rfl

theorem keeps_act (act : Act) : (App.act act).Keeps App.Agreed := by
  intro a agreed
  cases dialog : a.mode.aboutJob with
  | true => exact (inDialog_act dialog act).keeps keeps_carryOut agreed
  | false =>
    unfold App.act
    split
    · exact agreed
    · rw [Script.bind_apply, Script.get, Step.bind]
      cases mode : a.mode with
      | normal => exact keeps_actNormal act a agreed
      | pause input => exact keeps_actPause input act a agreed
      | _ =>
        rw [mode] at dialog
        cases dialog

theorem Turn.keeps_script : (turn : Turn) → turn.script.Keeps App.Agreed
  | .sync => keeps_sync
  | .act a => keeps_act a
  | .polling strides => fun a agreed =>
    Console.Agreed.moved (c := a.console) agreed (.strides a.console.poll strides)

theorem Turn.agreed_play {a : App} (agreed : a.Agreed) (turn : Turn) (server : Responses) :
    (turn.play server a).1.Agreed := by
  refine (turn.keeps_script a agreed).runWith ?_ []
  intro call sent a agreed
  exact Console.Agreed.moved (c := a.console) agreed (.strides a.console.poll _)

def App.playAll (a : App) (turns : List (Turn × Responses)) : App :=
  turns.foldl (fun a turn => (turn.1.play turn.2 a).1) a

theorem App.agreed_playAll {a : App} (agreed : a.Agreed) (turns : List (Turn × Responses)) :
    (a.playAll turns).Agreed := by
  induction turns generalizing a with
  | nil => exact agreed
  | cons turn turns ih => exact ih (turn.1.agreed_play agreed turn.2)

/-! ## Syncing -/

namespace App

def rows (a : App) : List Row := a.console.table.rows

def pumped (a : App) : App := { a with console := a.console.pump.2 }

def ownRow? (a : App) : Option Nat :=
  a.console.board.selected.bind fun uuid => a.rows.findIdx? fun row => row.uuid == uuid

def chosen (a : App) (server : Responses) : App × List Call :=
  (({ a with
      console := ((Console.select (a.cursorJob?.map Job.Snapshot.uuid) a.console).runWith
        (serving Console.onPoll server) []).2.1 } : App),
    ((Console.select (a.cursorJob?.map Job.Snapshot.uuid) a.console).runWith
      (serving Console.onPoll server) []).2.2)

theorem run_selectCursor (a : App) (server : Responses) :
    ((selectCursor a).runWith (serving onPoll server) []).2 = a.chosen server := by
  rw [selectCursor, Script.bind_apply, Script.get, Step.bind, Script.bind_apply, runWith_bind,
    run_inConsole]
  rfl

def clamped (a : App) : App := { a with cursor := min a.cursor (a.rows.length - 1) }

def cleared (a : App) : App :=
  { a with
    console := if a.console.board.selected = none then a.console
      else (a.console.selecting none).pump.2 }

def settle : Script App Unit := do
  let a ← Script.get
  if a.rows.isEmpty then
    if a.console.board.selected.isSome then
      let _ ← inConsole (Console.select none)
  else
    match a.ownRow? with
    | some index => Script.modify fun a => { a with cursor := index }
    | none =>
      Script.modify fun b => { b with cursor := min b.cursor (a.rows.length - 1) }
      selectCursor

theorem sync_eq : sync = (do
    inConsole Console.pumpAll
    settle) := rfl

theorem run_settle (a : App) (server : Responses) :
    ((settle a).runWith (serving onPoll server) []).2 =
      if a.rows.isEmpty then (a.cleared, [])
      else
        match a.ownRow? with
        | some index => ({ a with cursor := index }, [])
        | none => a.clamped.chosen server := by
  rw [settle, Script.bind_apply, Script.get, Step.bind]
  cases a.rows.isEmpty with
  | true =>
    simp only [if_true]
    cases selected : a.console.board.selected with
    | none =>
      simp [cleared, selected]
      rfl
    | some uuid =>
      simp only [Option.isSome_some, if_true]
      rw [Script.bind_apply, runWith_bind, run_inConsole, Console.run_select]
      simp [cleared, selected]
      rfl
  | false =>
    simp only [Bool.false_eq_true, if_false]
    cases a.ownRow? with
    | some index => rfl
    | none =>
      dsimp only
      rw [Script.bind_apply, Script.modify, Step.bind]
      exact run_selectCursor a.clamped server

theorem play_sync (a : App) (server : Responses) :
    Turn.sync.play server a =
      if a.pumped.rows.isEmpty then (a.pumped.cleared, [])
      else
        match a.pumped.ownRow? with
        | some index => ({ a.pumped with cursor := index }, [])
        | none => a.pumped.clamped.chosen server := by
  rw [Turn.play, Turn.script, sync_eq, Script.bind_apply, runWith_bind, run_inConsole]
  exact run_settle a.pumped server

theorem selected_pumped (a : App) : a.pumped.console.board.selected = a.console.board.selected :=
  congrArg Board.selected a.console.board_pump

theorem row_clamped {a : App} (rows : a.rows.isEmpty = false) :
    ∃ row, a.rows[a.clamped.cursor]? = some row := by
  have length : a.rows.length ≠ 0 := by
    intro none
    rw [List.length_eq_zero_iff.mp none] at rows
    cases rows
  have inside : a.clamped.cursor < a.rows.length :=
    Nat.lt_of_le_of_lt (Nat.min_le_right _ _) (Nat.sub_one_lt length)
  exact ⟨_, List.getElem?_eq_getElem inside⟩

theorem not_selected_of_gone {a : App} (gone : a.ownRow? = none) {row : Row} (mem : row ∈ a.rows) :
    a.console.board.selected ≠ some row.uuid := by
  intro selected
  rw [ownRow?, selected, Option.bind_some, List.findIdx?_eq_none_iff] at gone
  have other := gone row mem
  simp at other

theorem chosen_of_gone {a : App} {row : Row} (there : a.rows[a.clamped.cursor]? = some row)
    (gone : a.ownRow? = none) (server : Responses) :
    a.clamped.chosen server =
      ({ a.clamped with
          console := (Console.fetched server (a.console.selecting (some row.uuid)) []).1.pump.2 },
        (Console.fetched server (a.console.selecting (some row.uuid)) []).2) := by
  have job : a.clamped.cursorJob?.map Job.Snapshot.uuid = some row.uuid := by
    change ((a.rows[a.clamped.cursor]?).map Row.snapshot).map _ = _
    rw [there]
    rfl
  have other : a.clamped.console.board.selected ≠ some row.uuid :=
    not_selected_of_gone gone (List.mem_of_getElem? there)
  rw [chosen, job, Console.run_select, if_neg other]
  rfl

theorem selected_fetched (server : Responses) (c : Console) (sent : List Call) :
    (Console.fetched server c sent).1.board.selected = c.board.selected :=
  (moved_run (Console.pieces_steady_fetch c.poll) server sent).selected

theorem selected_chosen {a : App} {row : Row} (there : a.rows[a.clamped.cursor]? = some row)
    (gone : a.ownRow? = none) (server : Responses) :
    (a.clamped.chosen server).1.console.board.selected = some row.uuid := by
  rw [chosen_of_gone there gone]
  change (Console.fetched _ _ _).1.pump.2.board.selected = _
  rw [Console.board_pump]
  exact (selected_fetched server _ []).trans (Board.selected_select _ _)

theorem selected_cleared (a : App) : a.cleared.console.board.selected = none := by
  unfold cleared
  dsimp only
  split
  · assumption
  · rw [Console.board_pump]
    exact Board.selected_select _ _

theorem mode_sync (a : App) (server : Responses) : (Turn.sync.play server a).1.mode = a.mode := by
  rw [play_sync]
  split
  · rfl
  · split <;> rfl

theorem selected_sync_iff (a : App) (server : Responses) :
    (Turn.sync.play server a).1.console.board.selected = a.console.board.selected ↔
      a.pumped.ownRow?.isSome = true ∨
        a.pumped.rows.isEmpty = true ∧ a.console.board.selected = none := by
  rw [play_sync, ← a.selected_pumped]
  cases empty : a.pumped.rows.isEmpty with
  | true =>
    have own : a.pumped.ownRow? = none := by
      rw [ownRow?, List.isEmpty_iff.mp empty]
      cases a.pumped.console.board.selected <;> rfl
    rw [own, if_pos rfl, selected_cleared]
    simp [eq_comm]
  | false =>
    simp only [Bool.false_eq_true, if_false, false_and, or_false]
    cases own : a.pumped.ownRow? with
    | some index => exact iff_of_true rfl rfl
    | none =>
      obtain ⟨row, there⟩ := row_clamped empty
      refine iff_of_false ?_ (by decide)
      dsimp only
      rw [selected_chosen there own]
      exact fun same => not_selected_of_gone own (List.mem_of_getElem? there) same.symm

end App

end BackupConsole.Dashboard
