import BackupConsole.Proofs.Dashboard.Session
import BackupConsole.Proofs.Simulation.Passwords

set_option autoImplicit false

namespace BackupConsole.Dashboard

open Text Job Wire Polling Step Simulation

/-! ## Typing -/

def Input.closes : Input → Bool
  | .resize => false
  | .key pressed control stroke =>
    stroke != .release && (pressed == .enter || pressed == .escape || pressed == .char 'c' && control)

def typed (text : List Char) : Input → List Char
  | .key (.char c) _ stroke => if stroke = .release ∨ isControl c = true then text else text ++ [c]
  | .key .backspace _ stroke => if stroke = .release then text else text.dropLast
  | _ => text

namespace App

def press : List Input → Script App Unit
  | [] => pure ()
  | input :: inputs => do
    let _ ← handle input
    press inputs

theorem act_of_typing {input : Input} (kept : input.closes = false) (text : List Char) :
    (input.act true = none ∧ typed text input = text) ∨
      ∃ act, input.act true = some act ∧ act ≠ .quit ∧ act ≠ .select ∧
        edited (fun c => !isControl c) text act = some (typed text input) := by
  cases input with
  | resize => exact .inl ⟨rfl, rfl⟩
  | key pressed control stroke =>
    by_cases released : stroke = .release
    · subst released
      refine .inl ⟨rfl, ?_⟩
      cases pressed <;> rfl
    · obtain ⟨noEnter, noEscape, noControlC⟩ : pressed ≠ .enter ∧ pressed ≠ .escape ∧
          ¬(pressed = .char 'c' ∧ control = true) := by
        simpa [Input.closes, released, not_or, and_assoc] using kept
      rw [Input.act, if_neg released, if_neg noControlC]
      cases pressed with
      | enter => exact absurd rfl noEnter
      | escape => exact absurd rfl noEscape
      | char c =>
        have same : (if !isControl c then text ++ [c] else text) =
            if stroke = .release ∨ isControl c = true then text else text ++ [c] := by
          cases isControl c <;> simp [released]
        exact .inr ⟨.char c, rfl, by simp, by simp, congrArg some same⟩
      | backspace =>
        have same : text.dropLast = if stroke = .release then text else text.dropLast :=
          (if_neg released).symm
        exact .inr ⟨.backspace, rfl, by simp, by simp, congrArg some same⟩
      | up => exact .inr ⟨.up, rfl, by simp, by simp, rfl⟩
      | down => exact .inr ⟨.down, rfl, by simp, by simp, rfl⟩
      | function number =>
        rw [Key.act]
        split
        · exact .inr ⟨.refresh, rfl, by simp, by simp, rfl⟩
        · exact .inl ⟨rfl, rfl⟩
      | left | tab | delete | other => exact .inl ⟨rfl, rfl⟩

variable {a : App} {type : ArchiveType} {text : List Char}

theorem setMode_mode (a : App) : a.setMode a.mode = a := rfl

theorem handle_of_none {input : Input} (none : input.act a.mode.prompts = none) :
    handle input a = .done .none a := by
  rw [handle, Script.bind_apply]
  change Step.bind _ (Step.done a a) = _
  rw [Step.bind, none]
  rfl

theorem handle_of_some {input : Input} {action : Act}
    (some : input.act a.mode.prompts = some action) :
    handle input a = (act action a).bind fun _ => pure (.some action) := by
  rw [handle, Script.bind_apply]
  change Step.bind _ (Step.done a a) = _
  rw [Step.bind, some]
  rfl

theorem act_of_prompt (prompt : a.mode = .password type text) {action : Act}
    (noQuit : action ≠ .quit) : act action a = actPassword type text action a := by
  rw [act, if_neg noQuit, Script.bind_apply]
  change Step.bind _ (Step.done a a) = _
  rw [Step.bind, prompt]

theorem handle_typing (prompt : a.mode = .password type text) {input : Input}
    (kept : input.closes = false) :
    ∃ value, handle input a = .done value (a.setMode (.password type (typed text input))) := by
  have prompts : a.mode.prompts = true := by
    rw [prompt]
    rfl
  obtain ⟨none, same⟩ | ⟨action, some, noQuit, noSelect, edits⟩ := act_of_typing kept text
  · rw [handle_of_none (prompts ▸ none), same, ← prompt, setMode_mode]
    exact ⟨_, rfl⟩
  · rw [handle_of_some (prompts ▸ some), act_of_prompt prompt noQuit, actPassword, if_neg noSelect,
      edits]
    exact ⟨_, rfl⟩

theorem press_typing (prompt : a.mode = .password type text) {inputs : List Input}
    (kept : ∀ input ∈ inputs, input.closes = false) :
    press inputs a = .done () (a.setMode (.password type (inputs.foldl typed text))) := by
  induction inputs generalizing a text with
  | nil =>
    rw [List.foldl_nil, ← prompt]
    rfl
  | cons input inputs ih =>
    obtain ⟨first, kept⟩ := List.forall_mem_cons.mp kept
    obtain ⟨value, handles⟩ := handle_typing prompt first
    rw [press, Script.bind_apply, handles, List.foldl_cons]
    exact ih (a := a.setMode (.password type (typed text input))) rfl kept

/-! ## Confirming -/

theorem run_inConsole_alone {α ω : Type} (script : Script Console α)
    (serve : Call → ω → Answer × ω) (a : App) (world : ω) :
    (inConsole script a).run serve world =
      (((script a.console).run serve world).1,
        { a with console := ((script a.console).run serve world).2.1 },
        ((script a.console).run serve world).2.2) := by
  refine runWith_within console_with with_with ?_ (script a.console) a world
  exact fun _ _ _ => rfl

theorem run_order_alone {ω : Type} (success : String) (order : Order)
    (serve : Call → ω → Answer × ω) (a : App) (world : ω) :
    let ran := (order.carryOut a.console.poll).run serve world
    (App.order success order a).run serve world =
      ((), ({ a with console := { a.console with poll := ran.2.1 } } : App).report success ran.1,
        ran.2.2) := by
  intro ran
  have carries := Console.run_polling_alone order.carryOut serve a.console world
  have inside := run_inConsole_alone (Console.carryOut order) serve a world
  rw [Console.carryOut, carries] at inside
  rw [App.order, Script.bind_apply, Step.run, runWith_bind, ← Step.run, Console.carryOut, inside]
  rfl

theorem handle_enter (prompt : a.mode = .password type text) (control : Bool) {stroke : Stroke}
    (down : stroke ≠ .release) :
    handle (.key .enter control stroke) a =
      (App.order "Job started" (.startWithPassword type false false (String.ofList text))
        (a.setMode .normal)).bind fun _ => pure (some .select) := by
  have action : (Input.key .enter control stroke).act a.mode.prompts = some .select := by
    simp [Input.act, down, Key.act]
  have noQuit : Act.select ≠ .quit := by simp
  rw [handle_of_some action, act_of_prompt prompt noQuit]
  rfl

end App

/-! ## Handing over -/

theorem name_foreign_of_polls {call : Call} (asks : polls call = true) :
    call.request.name ∉ passwordCommands := by
  have known : call.request.name ∈ pollNames := of_decide_eq_true asks
  exact (by decide : ∀ name ∈ pollNames, name ∉ passwordCommands) _ known

theorem recorded_startWithPassword {p : Poll} {job : Snapshot}
    (selected : p.board.selectedJob? = some job) (type : ArchiveType) (password : String)
    (server : Responder) :
    let call := (passwordErrand job password).call
    ∃ result q rest,
      ((Order.startWithPassword type false false password).carryOut p).recorded server [] =
        (result, q, (call, server [] call) :: rest) ∧
      (∀ exchange ∈ rest, exchange.1.request.name ∉ passwordCommands) ∧
      ∀ failure, (server [] call).outcome = .error failure →
        rest = [] ∧ result = .error (.command (.job .setPassword job.name) failure) := by
  intro call
  have planned : (Order.startWithPassword type false false password).plan p.board =
      .ok { errands := [passwordErrand job password, startErrand job type false false] } :=
    Order.withSelected_of_some selected _
  have starts : (startErrand job type false false).call.request.name ∉ passwordCommands :=
    (by decide : "JOB_START" ∉ passwordCommands)
  have ends := recorded_carryOut planned (List.cons_ne_nil _ _) server []
  generalize ((Order.startWithPassword type false false password).carryOut p).recorded server [] = ran
    at ends
  cases ends with
  | failed before failing after cause order accepted fails =>
    match before, order with
    | [], order =>
      obtain ⟨rfl, rfl⟩ := List.cons.inj order
      refine ⟨_, _, [], rfl, nofun, fun failure same => ⟨rfl, ?_⟩⟩
      rw [Except.error.inj (same.symm.trans fails)]
      rfl
    | [first], order =>
      obtain ⟨rfl, last⟩ := List.cons.inj order
      obtain ⟨rfl, rfl⟩ := List.cons.inj last
      refine ⟨_, _, _, rfl, List.forall_mem_singleton.mpr starts, fun failure same => ?_⟩
      exact nomatch (accepted _ List.mem_cons_self).symm.trans same
    | first :: second :: before, order =>
      have length := congrArg List.length order
      simp at length
  | accepted accepted q more refreshed =>
    refine ⟨_, q, _ :: more, rfl, List.forall_mem_cons.mpr ⟨starts, fun exchange mem => ?_⟩, ?_⟩
    · exact name_foreign_of_polls (refreshed.polled exchange mem)
    · exact fun failure same => nomatch (accepted _ List.mem_cons_self).symm.trans same

theorem run_enter {a : App} {type : ArchiveType} {text : List Char}
    (prompt : a.mode = .password type text) (control : Bool) {stroke : Stroke}
    (down : stroke ≠ .release) (clock : Nat → Int64) (s : Server) :
    let ran := ((Order.startWithPassword type false false (String.ofList text)).carryOut
      a.console.poll).recorded (s.responder clock) []
    (App.handle (.key .enter control stroke) a).run (Server.serve clock) (0, s) =
      (some .select,
        ({ a.setMode .normal with console := { a.console with poll := ran.2.1 } } : App).report
          "Job started" ran.1,
        ran.2.2.length, s.replay clock ran.2.2) := by
  intro ran
  have carried : ((Order.startWithPassword type false false (String.ofList text)).carryOut
      a.console.poll).run (Server.serve clock) (0, s) =
        (ran.1, ran.2.1, ran.2.2.length, s.replay clock ran.2.2) := run_serve _ clock s []
  have ordered := App.run_order_alone "Job started"
    (.startWithPassword type false false (String.ofList text)) (Server.serve clock)
    (a.setMode .normal) (0, s)
  have same : (a.setMode .normal).console = a.console := rfl
  rw [same, carried] at ordered
  rw [App.handle_enter prompt control down, Step.run, runWith_bind, ← Step.run, ordered]
  rfl

/-! ## The prompt as a whole -/

/-- Keys that do not close the prompt for a password edit its text and send nothing. When the text is
confirmed, it is what the server keeps for the selected job, or it is empty and rejected, and then
nothing else is sent. -/
theorem typed_password_kept {a : App} {type : ArchiveType} {text : List Char}
    (prompt : a.mode = .password type text) {inputs : List Input}
    (kept : ∀ input ∈ inputs, input.closes = false) :
    let password := inputs.foldl typed text
    let b := a.setMode (.password type password)
    App.press inputs a = .done () b ∧
      ∀ (clock : Nat → Int64) (s : Server) (job : Snapshot) (known : SimJob) (control : Bool)
        (stroke : Stroke), stroke ≠ .release → a.console.board.selectedJob? = some job →
        s.findJob? job.uuid = some known → s.offline = false → s.injections = [] →
        let confirmed := (App.handle (.key .enter control stroke) b).run (Server.serve clock) (0, s)
        let after := confirmed.2.2.2
        (password ≠ [] → after.password job.uuid = some (String.ofList password)) ∧
          (password = [] →
            confirmed.2.1.error =
              some (Refusal.command (.job .setPassword job.name) (.rejected 14 0 "")).message ∧
            after = s.logged (passwordErrand job "").request) := by
  intro password b
  refine ⟨App.press_typing prompt kept, ?_⟩
  intro clock s job known control stroke down selected found online uninjected confirmed after
  have selected : b.console.poll.board.selectedJob? = some job := selected
  obtain ⟨result, q, rest, ran, foreign, rejected⟩ := recorded_startWithPassword selected type
    (String.ofList password) (s.responder clock)
  have ends := run_enter (a := b) rfl control down clock s
  rw [ran] at ends
  have left : after = s.replay clock
      ([((passwordErrand job (String.ofList password)).call,
        s.responder clock [] (passwordErrand job (String.ofList password)).call)] ++ rest) :=
    congrArg (fun ran => ran.2.2.2) ends
  refine ⟨fun filled => ?_, fun empty => ?_⟩
  · have filled : String.ofList password ≠ "" := fun none => filled (String.ofList_inj.mp none)
    rw [left, Server.password_replay clock s _ foreign]
    exact (Server.answer_password online uninjected job found filled).2
  · have first : String.ofList password = "" := congrArg String.ofList empty
    rw [first] at left rejected
    have answered : s.answer (clock 0) (passwordErrand job "").request = _ :=
      Server.answer_password_empty online uninjected job
    obtain ⟨none, refused⟩ := rejected (.rejected 14 0 "")
      (congrArg (fun answer => answer.1.outcome) answered)
    refine ⟨?_, ?_⟩
    · have shown := congrArg (fun ran => ran.2.1.error) ends
      rw [refused] at shown
      exact shown
    · rw [left, none]
      exact congrArg Prod.snd answered

/-- Letters that stand for actions elsewhere are typed, one is taken back, and the text is confirmed. -/
theorem typed_letters_kept :
    let a : App := { console := waitingConsole, server := "", mode := .password .normal [] }
    let inputs : List Input := [.key (.char 'q') false .press, .key .up false .press,
      .key (.char 'é') false .press, .resize, .key (.char 's') true .hold,
      .key .backspace false .press]
    let b := a.setMode (.password .normal ['q', 'é'])
    App.press inputs a = .done () b ∧
      ((App.handle (.key .enter false .press) b).run (Server.serve fun _ => 0)
        (0, busyServer)).2.2.2.password "b" = some "qé" := by
  intro a inputs b
  have prompt : a.mode = .password .normal [] := rfl
  have kept : ∀ input ∈ inputs, input.closes = false := by decide
  have text : inputs.foldl typed [] = ['q', 'é'] := by decide
  obtain ⟨pressed, confirms⟩ := typed_password_kept prompt kept
  rw [text] at pressed confirms
  have chosen : a.console.board.selectedJob?.map Snapshot.uuid = some "b" := by decide +kernel
  obtain ⟨job, selected, same⟩ := Option.map_eq_some_iff.mp chosen
  have found : busyServer.findJob? job.uuid = some (SimJob.new "b" "beta two" .waiting) := by
    rw [same]
    decide
  have stored := (confirms (fun _ => 0) busyServer job _ false .press nofun selected found rfl
    rfl).1 (List.cons_ne_nil _ _)
  rw [same] at stored
  have spelled : String.ofList ['q', 'é'] = "qé" := by decide
  have typing : a.setMode (.password .normal ['q', 'é']) = b := rfl
  rw [spelled, typing] at stored
  exact ⟨pressed, stored⟩

end BackupConsole.Dashboard
