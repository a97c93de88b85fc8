import BackupConsole.Proofs.Dashboard.Session

set_option autoImplicit false

namespace BackupConsole.Dashboard

open Wire Polling Step

def Mode.sameDialog : Mode → Mode → Bool
  | .normal, .normal => true
  | .startMenu _, .startMenu _ => true
  | .password _ _, .password _ _ => true
  | .confirmAbort, .confirmAbort => true
  | .pause _, .pause _ => true
  | .volume _, .volume _ => true
  | .schedules _, .schedules _ => true
  | _, _ => false

/-- The dashboard, and what has become of the selection since its dialog was opened. -/
structure Session where
  app : App
  target : Option String := none
  /-- Since then the dashboard has been synced without a row of the selected job. -/
  strayed : Bool := false

def commands (calls : List Call) : List Call := calls.filter fun call => !polls call

namespace Session

def strays (a : App) : Turn → Bool
  | .sync => a.pumped.ownRow?.isNone
  | .act _ | .polling _ => false

def after (s : Session) (turn : Turn) (server : Responses) : Session :=
  let next := (turn.play server s.app).1
  if next.mode.sameDialog s.app.mode then
    { s with app := next, strayed := s.strayed || strays s.app turn }
  else { app := next, target := next.console.board.selected }

def run (s : Session) (turns : List (Turn × Responses)) : Session :=
  turns.foldl (fun s turn => s.after turn.1 turn.2) s

def new (settings : Settings) (key : SortKey) (server : String) : Session :=
  { app := { console := Console.new settings key, server } }

end Session

/-! ## What a dialog orders -/

namespace InDialog

variable {a : App} {step : Step App Unit}

theorem selected (dialog : InDialog a step) (server : Responses) :
    (step.runWith (serving App.onPoll server) []).2.1.console.board.selected =
      a.console.board.selected := by
  -- Neither an order nor polling in the background changes the selection.
  have stays {c : Console} {q : Poll} (same : c.board.selected = a.console.board.selected)
      (moved : c.poll.Moved q) :
      ({ c with poll := q } : Console).board.selected = a.console.board.selected :=
    moved.selected.trans same
  have keeps := dialog.keeps (I := fun c => c.board.selected = a.console.board.selected)
    (Console.keeps_carryOut stays) rfl
  refine keeps.runWith ?_ []
  exact fun call sent b same => stays same (.strides b.console.poll _)

theorem uuid (dialog : InDialog a step) (agreed : a.Agreed) (server : Responses) {call : Call}
    (sent : call ∈ commands (step.runWith (serving App.onPoll server) []).2.2) :
    call.request.get? "jobUUID" = a.console.board.selected := by
  obtain ⟨mem, command⟩ := List.mem_filter.mp sent
  cases dialog with
  | aside b same => cases mem
  | orders order aboutJob b same finish aside =>
    rw [runWith_bind, App.run_inConsole, Console.carryOut, Console.run_polling] at mem
    obtain ⟨more, calls, allowed⟩ :=
      calls_run (pieces_steady_carryOut order b.console.poll) server []
    have among : call ∈ ((order.carryOut b.console.poll).runWith (serving id server) []).2.2 := mem
    rw [calls, List.nil_append] at among
    obtain ordered | poll := allowed call among
    · obtain ⟨job, selected, about⟩ := aboutJob_of_mem_commandsOf aboutJob ordered
      have consistent : b.console.board.roster.Consistent := by
        rw [same]
        exact agreed.consistent
      rw [about.uuid, ← same, ← selected_of_selectedJob? selected consistent]
      rfl
    · rw [poll] at command
      cases command

end InDialog

namespace Session

variable {s : Session}

theorem app_after (s : Session) (turn : Turn) (server : Responses) :
    (s.after turn server).app = (turn.play server s.app).1 := by
  unfold Session.after
  dsimp only
  split <;> rfl

/-- While a dialog is open, only syncing without a row of the selected job changes the selection. -/
structure Tracked (s : Session) : Prop where
  agreed : s.app.Agreed
  stayed : s.app.mode.aboutJob = true → s.strayed = false →
    s.app.console.board.selected = s.target

theorem aboutJob_of_sameDialog {mode other : Mode} (same : mode.sameDialog other = true) :
    mode.aboutJob = other.aboutJob := by
  cases mode <;> cases other <;> first | rfl | cases same

theorem selected_play {a : App} (dialog : a.mode.aboutJob = true) (turn : Turn) (server : Responses)
    (stays : strays a turn = false) :
    (turn.play server a).1.console.board.selected = a.console.board.selected := by
  cases turn with
  | sync =>
    rw [App.selected_sync_iff]
    left
    simpa [strays] using stays
  | act x => exact (inDialog_act dialog x).selected server
  | polling strides => exact (Poll.Moved.strides a.console.poll strides).selected

theorem Tracked.after (tracked : s.Tracked) (turn : Turn) (server : Responses) :
    (s.after turn server).Tracked := by
  have agreed := turn.agreed_play tracked.agreed server
  unfold Session.after
  dsimp only
  split
  · rename_i same
    refine ⟨agreed, fun dialog unstrayed => ?_⟩
    dsimp only at dialog unstrayed ⊢
    -- The dialog was open before the turn, so what holds of the target held before it.
    rw [aboutJob_of_sameDialog same] at dialog
    obtain ⟨before, stays⟩ := Bool.or_eq_false_iff.mp unstrayed
    rw [selected_play dialog turn server stays]
    exact tracked.stayed dialog before
  · exact ⟨agreed, fun _ _ => rfl⟩

theorem Tracked.run (tracked : s.Tracked) (turns : List (Turn × Responses)) :
    (s.run turns).Tracked := by
  induction turns generalizing s with
  | nil => exact tracked
  | cons turn turns ih => exact ih (tracked.after turn.1 turn.2)

theorem tracked_new (settings : Settings) (key : SortKey) (server : String) :
    (new settings key server).Tracked :=
  ⟨App.agreed_new settings key server, fun _ _ => rfl⟩

/-- What a dialog about a job can do. -/
structure Ordered (s : Session) (act : Act) (server : Responses) : Prop where
  now : ∀ command ∈ commands ((Turn.act act).play server s.app).2,
    command.request.get? "jobUUID" = s.app.console.board.selected
  meant : (∀ command ∈ commands ((Turn.act act).play server s.app).2,
      command.request.get? "jobUUID" = s.target) ↔
    commands ((Turn.act act).play server s.app).2 = [] ∨
      s.app.console.board.selected = s.target
  selected : ((Turn.act act).play server s.app).1.console.board.selected =
    s.app.console.board.selected

theorem Tracked.ordered (tracked : s.Tracked) (dialog : s.app.mode.aboutJob = true) (act : Act)
    (server : Responses) : s.Ordered act server := by
  have inDialog := inDialog_act dialog act
  have now : ∀ command ∈ commands ((Turn.act act).play server s.app).2,
      command.request.get? "jobUUID" = s.app.console.board.selected :=
    fun command sent => inDialog.uuid tracked.agreed server sent
  refine ⟨now, ?_, inDialog.selected server⟩
  constructor
  · intro meant
    cases sent : commands ((Turn.act act).play server s.app).2 with
    | nil => exact .inl rfl
    | cons command rest =>
      have mem : command ∈ commands ((Turn.act act).play server s.app).2 := by
        rw [sent]
        exact List.mem_cons_self
      exact .inr ((now command mem).symm.trans (meant command mem))
  · rintro (none | same) command sent
    · rw [none] at sent
      cases sent
    · exact (now command sent).trans same

/-- In every session, what is ordered in a dialog about a job is ordered for the job selected at that
moment. This is the job that the dialog was opened for unless, since then, the dashboard has been
synced when the selected job had no row; and then another job is selected. -/
theorem orders_follow_selection (settings : Settings) (key : SortKey) (name : String)
    (turns : List (Turn × Responses)) :
    let s := (new settings key name).run turns
    s.app.mode.aboutJob = true →
      (∀ act server, s.Ordered act server) ∧
        (s.strayed = false → s.app.console.board.selected = s.target) ∧
        ∀ server, (s.after .sync server).app.mode = s.app.mode ∧
          ((s.after .sync server).app.console.board.selected = s.app.console.board.selected ↔
            s.app.pumped.ownRow?.isSome = true ∨
              s.app.pumped.rows.isEmpty = true ∧ s.app.console.board.selected = none) := by
  intro s dialog
  have tracked : s.Tracked := (tracked_new settings key name).run turns
  refine ⟨tracked.ordered dialog, tracked.stayed dialog, fun server => ?_⟩
  rw [app_after]
  exact ⟨App.mode_sync s.app server, App.selected_sync_iff s.app server⟩

def oneJob (uuid : String) : Responses := fun _ _ =>
  { answer := { rows := [.ofPairs [("jobUUID", uuid), ("name", uuid), ("state", "RUNNING")]] } }

def aborting (uuid : String) : Session :=
  (new {} .name "localhost").run
    [(.act .refresh, oneJob uuid), (.sync, oneJob uuid), (.act .abort, oneJob uuid)]

theorem aborting_meant :
    (aborting "a").app.mode.aboutJob = true ∧ (aborting "a").target = some "a" ∧
      ∀ server, ∀ command ∈ commands ((Turn.act .yes).play server (aborting "a").app).2,
        command.request.get? "jobUUID" = some "a" := by
  have dialog : (aborting "a").app.mode.aboutJob = true := by decide +kernel
  have target : (aborting "a").target = some "a" := by decide +kernel
  have ordered := orders_follow_selection {} .name "localhost"
    [(.act .refresh, oneJob "a"), (.sync, oneJob "a"), (.act .abort, oneJob "a")] dialog
  have selected := ordered.2.1 (by decide +kernel)
  refine ⟨dialog, target, fun server command sent => ?_⟩
  exact ((ordered.1 .yes server).now command sent).trans (selected.trans target)

/-- The list that comes while the user is asked has another job, and this one is aborted. -/
theorem abort_for_another_job :
    let s := (aborting "a").run
      [(.polling [.begin .jobList, .receive .jobList (oneJob "b" [] listCall).answer], oneJob "b"),
        (.sync, oneJob "b")]
    s.app.mode = .confirmAbort ∧ s.target = some "a" ∧
      (commands ((Turn.act .yes).play (oneJob "b") s.app).2).map Call.request =
        [{ name := "JOB_ABORT", args := [("jobUUID", "b")] }] := by
  decide +kernel

end Session

end BackupConsole.Dashboard
