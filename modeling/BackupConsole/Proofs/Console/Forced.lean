import BackupConsole.Proofs.Console.Operation
import BackupConsole.Proofs.Polling.Backdrop

set_option autoImplicit false

namespace BackupConsole

open Job Wire Polling Step

namespace Console

/-! ## The console before a backdrop -/

def attended (server : Responder) (pace : Pace) (call : Call) (b : Backdrop) (c : Console) :
    Answer × Backdrop × Console :=
  let served := Polling.attended server pace call b c.poll
  (served.1, served.2.1, { c with poll := served.2.2 })

inductive Act where
  | turn (turn : Turn)
  | refresh
  | choose (uuid : Option String)
  | carryOut (order : Order)

def act (server : Responder) (pace : Pace) (now : Console × Backdrop) : Act → Console × Backdrop
  | .turn turn =>
    let next := Scene.turn server (now.1.poll, now.2) turn
    ({ now.1 with poll := next.1 }, next.2)
  | .refresh => ((refresh now.1).runWith (attended server pace) now.2).2
  | .choose uuid => ((select uuid now.1).runWith (attended server pace) now.2).2
  | .carryOut order => ((carryOut order now.1).runWith (attended server pace) now.2).2

def acts (settings : Settings) (key : SortKey) (server : Responder) (pace : Pace) (acts : List Act) :
    Console × Backdrop :=
  acts.foldl (act server pace) (Console.new settings key, {})

/-- The server answers what is asked about itself and the job `uuid`. -/
structure Obliging (server : Responder) (uuid : String) : Prop where
  state : ∀ heard, (reading (server heard stateCall)).isOk = true
  status : ∀ heard, (Poll.decoded Snapshot.ofFields (server heard (statusCall uuid))).isOk = true
  detail : ∀ heard, (server heard (detailCall uuid)).outcome = .ok ()

/-- A refresh of this kind is to begin with this scene; since some moment, this has been heard. -/
structure Forced (kind : Kind) (call : Call) (ready : Scene) (since : Transcript) (there : Prop) :
    Prop where
  exact : there ↔ ∃ answer, (call, answer) ∈ since
  free : kind ∉ ready.2.flags → ∃ answer, (call, answer) ∈ since
  covered : kind ∈ ready.2.flags → Polling.refresh kind ready.1 = .done (.ok .coalesced) ready.1

section

variable {server : Responder} {pace : Pace} {c : Console} {b : Backdrop}

theorem runWith_polling {α : Type} (script : Script Poll α) :
    (polling script c).runWith (attended server pace) b =
      let ran := (script c.poll).runWith (Polling.attended server pace) b
      (ran.1, { c with poll := ran.2.1 }, ran.2.2) :=
  runWith_within poll_with with_with (fun _ _ _ => rfl) (script c.poll) c b

def fetchKinds : List Kind := [.schedules, .jobInfo]

theorem pieces_orderly_fetch (p : Poll) : Pieces (Orderly fetchKinds) none p (fetch p) :=
  pieces_orderly_bind (pieces_orderly_refresh (by decide) p) fun _ q =>
    pieces_orderly_bind (pieces_orderly_refresh (by decide) q) fun _ _ => .idle _

def lastFetch : Script Poll Unit := do
  let _ ← Polling.refresh .jobInfo

theorem pieces_orderly_lastFetch (p : Poll) : Pieces (Orderly fetchKinds) none p (lastFetch p) :=
  pieces_orderly_bind (pieces_orderly_refresh (by decide) p) fun _ _ => .idle _

theorem runWith_select {uuid : String} (other : c.board.selected ≠ some uuid) :
    let ready := ((Polling.refresh .schedules (c.selecting (some uuid)).poll).runWith
      (Polling.attended server pace) b).2
    let fetched := ((lastFetch ready.1).runWith (Polling.attended server pace) ready.2).2
    (select (some uuid) c).runWith (attended server pace) b =
      (true, ({ c.selecting (some uuid) with poll := fetched.1 } : Console).pump.2, fetched.2) := by
  rw [select_apply, if_neg other]
  change ((polling fetch (c.selecting (some uuid))).bind fun _ => settled).runWith _ b = _
  rw [runWith_bind, runWith_polling, fetch, Script.bind_apply, runWith_bind]
  rfl

theorem runWith_carryOut {order : Order} {errands : List Errand} {effect : Effect}
    (planned : order.plan c.board = .ok ⟨errands, effect⟩) (some : errands ≠ []) {sent : Scene}
    (sends : (sendAll errands c.poll).runWith (Polling.attended server pace) b = (.ok (), sent))
    (alive : sent.1.terminated = false) :
    let ready := ((Polling.refresh .jobList sent.1).runWith (Polling.attended server pace) sent.2).2
    let ended := ((stateAndInfo ready.1).runWith (Polling.attended server pace) ready.2).2
    (carryOut order c).runWith (attended server pace) b =
      (.ok effect, { c with poll := ended.1 }, ended.2) := by
  have sent' : ¬errands.isEmpty = true := fun empty => some (List.isEmpty_iff.mp empty)
  have lists : refreshAll sent.1 = (Polling.refresh .jobList sent.1).bind fun _ => stateAndInfo := by
    rw [refreshAll, cycle_apply, alive]
    rfl
  rw [carryOut, runWith_polling, carryOut_apply]
  change order.plan c.poll.board = _ at planned
  rw [planned]
  dsimp only
  rw [if_neg sent', runWith_bind, sends]
  dsimp only
  rw [afterCommands, Script.bind_apply, runWith_bind, lists, runWith_bind]
  rfl

theorem fits_pump (fits : Scene.Fits [] (c.poll, b)) : Scene.Fits [] (c.pump.2.poll, b) := by
  rw [poll_pump]
  exact fits.congr rfl rfl

theorem fits_selecting (fits : Scene.Fits [] (c.poll, b)) (uuid : Option String) :
    Scene.Fits [] ((c.selecting uuid).poll, b) := fits.congr rfl rfl

end

section

variable {server : Responder} (tells : ∀ heard, (reading (server heard stateCall)).isOk = true)
  (pace : Pace)
include tells

theorem fits_act {now : Console × Backdrop} (fits : Scene.Fits [] (now.1.poll, now.2)) (a : Act) :
    Scene.Fits [] ((act server pace now a).1.poll, (act server pace now a).2) := by
  obtain ⟨c, b⟩ := now
  cases a with
  | turn turn => exact (fits.turn tells turn).1
  | refresh =>
    have ran := (fits.runs tells pace (pieces_orderly_cycle true c.poll)).1
    rw [act, Console.refresh, Script.bind_apply, runWith_bind, runWith_polling]
    exact fits_pump ran
  | choose uuid =>
    have chosen := fits_selecting fits uuid
    have fetched := (chosen.runs tells pace (pieces_orderly_fetch _)).1
    rw [act, select_apply]
    split
    · exact fits
    split
    · rw [runWith_bind, runWith_polling]
      exact fits_pump fetched
    · exact fits_pump chosen
  | carryOut order =>
    rw [act, Console.carryOut, runWith_polling]
    exact (fits.runs tells pace (pieces_orderly_carryOut order c.poll)).1

theorem fits_acts (settings : Settings) (key : SortKey) (history : List Act) :
    let now := acts settings key server pace history
    Scene.Fits [] (now.1.poll, now.2) := by
  have start : Scene.Fits [] ((Console.new settings key).poll, {}) :=
    { orderly := fun _ mem => absurd mem List.not_mem_nil
      taken := List.Perm.nil
      alone := List.nodup_nil
      alive := rfl }
  suffices ∀ now : Console × Backdrop, Scene.Fits [] (now.1.poll, now.2) →
      Scene.Fits [] ((history.foldl (act server pace) now).1.poll,
        (history.foldl (act server pace) now).2) from this _ start
  induction history with
  | nil => exact fun _ fits => fits
  | cons a rest ih => exact fun now fits => ih _ (fits_act tells pace fits a)

end

section

variable {server : Responder} {uuid : String} (obliging : Obliging server uuid) (pace : Pace)
  {c : Console} {b : Backdrop} (fits : Scene.Fits [] (c.poll, b))
include obliging fits

theorem forced_detail (other : c.board.selected ≠ some uuid) :
    let back := (select (some uuid) c).runWith (attended server pace) b
    let ready := ((Polling.refresh .schedules (c.selecting (some uuid)).poll).runWith
      (Polling.attended server pace) b).2
    Forced .jobInfo (detailCall uuid) ready (back.2.2.heard.drop b.heard.length)
      (∃ detail, back.2.1.board.detail = some detail ∧ detail.uuid = uuid) := by
  have chosen := fits_selecting fits (some uuid)
  have moves : (c.selecting (some uuid)).board =
      { c.board with selected := some uuid, detail := none, schedules := [] } :=
    congrArg Prod.snd (if_neg other : c.board.select (some uuid) = _)
  have schedules : Pieces (Orderly fetchKinds) none (c.selecting (some uuid)).poll
      (Polling.refresh .schedules (c.selecting (some uuid)).poll) :=
    pieces_orderly_refresh (by decide) _
  obtain ⟨readyFits, first, grown, _⟩ := chosen.runs obliging.state pace schedules
  dsimp only
  rw [runWith_select other]
  dsimp only
  generalize ((Polling.refresh .schedules (c.selecting (some uuid)).poll).runWith
    (Polling.attended server pace) b).2 = ready at readyFits grown ⊢
  obtain ⟨_, last, grown', asked⟩ := readyFits.runs obliging.state pace 
    (pieces_orderly_lastFetch ready.1)
  generalize ((lastFetch ready.1).runWith (Polling.attended server pace) ready.2).2 = fetched
    at grown' ⊢
  have all := grown.trans grown'
  have since : fetched.2.heard.drop b.heard.length = first ++ last := by
    rw [all.heard, List.drop_left]
  have selected : ready.1.board.selected = some uuid := by
    rw [grown.board, Board.selected_toldAll]
    exact congrArg Board.selected moves
  rw [since, board_pump]
  refine ⟨?_, fun free => ?_, fun busy => ?_⟩
  · change (∃ detail, fetched.1.board.detail = some detail ∧ detail.uuid = uuid) ↔ _
    rw [all.board]
    refine Board.detail_toldAll (congrArg Board.selected moves) (congrArg Board.detail moves) ?_
    intro answer mem
    obtain ⟨heard, rfl : server heard (detailCall uuid) = answer⟩ := all.answered _ mem
    exact obliging.detail heard
  · obtain ⟨answer, mem⟩ := asked _ (readyFits.comes_jobInfo selected obliging.status free).bind
    exact ⟨answer, List.mem_append_right _ mem⟩
  · have first : ready.1.firstCall .jobInfo = .waiting (.jobStatus uuid) := by
      rw [Poll.firstCall, selected]
    exact readyFits.covered first busy

omit uuid obliging in
theorem forced_state (tells : ∀ heard, (reading (server heard stateCall)).isOk = true) {order : Order}
    {errands : List Errand} {effect : Effect} (planned : order.plan c.board = .ok ⟨errands, effect⟩)
    (some : errands ≠ [])
    (accepted : ((sendAll errands c.poll).runWith (Polling.attended server pace) b).1 = .ok ()) :
    let sent := ((sendAll errands c.poll).runWith (Polling.attended server pace) b).2
    let ready := ((Polling.refresh .jobList sent.1).runWith (Polling.attended server pace) sent.2).2
    let back := (carryOut order c).runWith (attended server pace) b
    let since := back.2.2.heard.drop sent.2.heard.length
    back.1 = .ok effect ∧
      Forced .runState stateCall ready since
        (∃ answer, (stateCall, answer) ∈ since ∧ reading answer = .ok back.2.1.board.runState) := by
  have commands : ∀ call ∈ errands.map Errand.call, polls call = false := by
    intro call mem
    have planned : call ∈ commandsOf c.board order := by
      rw [commandsOf, planned]
      exact mem
    exact polls_of_mem_commandsOf planned
  have sending : Pieces (Orderly []) none c.poll (sendAll errands c.poll) :=
    pieces_orderly_sendAll commands c.poll
  obtain ⟨sentFits, _⟩ := fits.runs tells pace sending
  rcases sends : (sendAll errands c.poll).runWith (Polling.attended server pace) b with ⟨result, sent⟩
  rw [sends] at accepted sentFits
  obtain rfl : result = .ok () := accepted
  dsimp only at sentFits ⊢
  rw [runWith_carryOut planned some sends sentFits.alive]
  refine ⟨rfl, ?_⟩
  have list : Pieces (Orderly cycleKinds) none sent.1 (Polling.refresh .jobList sent.1) :=
    pieces_orderly_refresh (by decide) sent.1
  obtain ⟨readyFits, first, grown, _⟩ := sentFits.runs tells pace list
  dsimp only
  generalize ((Polling.refresh .jobList sent.1).runWith (Polling.attended server pace) sent.2).2 =
    ready at readyFits grown ⊢
  obtain ⟨_, last, grown', asked⟩ := readyFits.runs tells pace (pieces_orderly_stateAndInfo ready.1)
  generalize ((stateAndInfo ready.1).runWith (Polling.attended server pace) ready.2).2 = ended
    at grown' ⊢
  have all := grown.trans grown'
  have since : ended.2.heard.drop sent.2.heard.length = first ++ last := by
    rw [all.heard, List.drop_left]
  rw [since]
  refine ⟨?_, fun free => ?_, fun busy => ?_⟩
  · change (∃ answer, _ ∧ reading answer = .ok ended.1.board.runState) ↔ _
    rw [all.board]
    refine sent.1.board.runState_toldAll fun answer mem => ?_
    obtain ⟨heard, rfl : server heard stateCall = answer⟩ := all.answered _ mem
    exact tells heard
  · obtain ⟨answer, mem⟩ := asked _ (readyFits.comes_runState free).bind
    exact ⟨answer, List.mem_append_right _ mem⟩
  · have first : ready.1.firstCall .runState = .waiting .runState := by
      rw [Poll.firstCall, readyFits.alive]
      rfl
    exact readyFits.covered first busy

end

/-- Against a server that answers everything, whatever has been done before and goes on in the
background: the progress of a job newly chosen is there when the choice returns exactly if it has been
asked for since, and the run state that shows when an accepted order returns is one that the server
has told since exactly if it has been asked for since the last command. Both are asked for unless a
cycle waits for an answer of the kind when it is their turn; then they are not. -/
theorem forced_exact {server : Responder} {uuid : String} (obliging : Obliging server uuid)
    (settings : Settings) (key : SortKey) (pace : Pace) (history : List Act) :
    let now := acts settings key server pace history
    (now.1.board.selected ≠ some uuid →
      let back := (select (some uuid) now.1).runWith (attended server pace) now.2
      let ready := ((Polling.refresh .schedules (now.1.selecting (some uuid)).poll).runWith
        (Polling.attended server pace) now.2).2
      Forced .jobInfo (detailCall uuid) ready (back.2.2.heard.drop now.2.heard.length)
        (∃ detail, back.2.1.board.detail = some detail ∧ detail.uuid = uuid)) ∧
    ∀ order errands effect, order.plan now.1.board = .ok ⟨errands, effect⟩ → errands ≠ [] →
      let sending := (sendAll errands now.1.poll).runWith (Polling.attended server pace) now.2
      sending.1 = .ok () →
      let sent := sending.2
      let ready := ((Polling.refresh .jobList sent.1).runWith (Polling.attended server pace) sent.2).2
      let back := (carryOut order now.1).runWith (attended server pace) now.2
      let since := back.2.2.heard.drop sent.2.heard.length
      back.1 = .ok effect ∧
        Forced .runState stateCall ready since
          (∃ answer, (stateCall, answer) ∈ since ∧
            reading answer = .ok back.2.1.board.runState) := by
  intro now
  have fits := fits_acts obliging.state pace settings key history
  exact ⟨forced_detail obliging pace fits, fun _ _ _ => forced_state pace fits obliging.state⟩

def suspendable : Responder := fun heard call =>
  if call.request.name = "STATUS" then
    let suspended := heard.any fun exchange => exchange.1.request.name = "SUSPEND"
    { rows := [.ofPairs [("state", if suspended then "SUSPENDED" else "RUNNING")]] }
  else
    let jobs := (call.request.get? "jobUUID").elim ["a", "b"] fun uuid => [uuid]
    { rows := jobs.map fun uuid => .ofPairs [("jobUUID", uuid), ("name", uuid)] }

/-- A cycle begins while the first call after the command waits. -/
def late : Pace := fun heard =>
  if heard.getLast?.any fun exchange => exchange.1.request.name = "SUSPEND" then [.tick false] else []

theorem obliging_suspendable : Obliging suspendable "b" where
  state := by
    intro heard
    have told (suspended : Bool) :
        (reading { rows :=
          [.ofPairs [("state", if suspended then "SUSPENDED" else "RUNNING")]] }).isOk = true := by
      cases suspended <;> decide
    exact told _
  status := fun _ => rfl
  detail := fun _ => rfl

/-- Without cycles in the background, a choice shows the progress and an order the run state. -/
theorem forced_alone :
    let now := acts {} .name suspendable (fun _ => []) [.refresh]
    let chosen := ((select (some "b") now.1).runWith (attended suspendable fun _ => []) now.2).2
    let toggled := ((carryOut .toggle now.1).runWith (attended suspendable fun _ => []) now.2).2
    Obliging suspendable "b" ∧ (∃ detail, chosen.1.board.detail = some detail ∧ detail.uuid = "b") ∧
      ∃ answer, (stateCall, answer) ∈ toggled.2.heard ∧
        reading answer = .ok toggled.1.board.runState := by
  obtain ⟨choosing, ordering⟩ := forced_exact obliging_suspendable {} .name (fun _ => []) [.refresh]
  have forced := choosing (by decide +kernel)
  have there := forced.exact.mpr (forced.free (by decide +kernel))
  have ordered := ordering .toggle
    [{ action := .server .suspend, request := { name := "SUSPEND" } }] (.switched .suspended)
    (by decide +kernel) (List.cons_ne_nil _ _) (by decide +kernel)
  have shows := ordered.2.exact.mpr (ordered.2.free (by decide +kernel))
  refine ⟨obliging_suspendable, there, ?_⟩
  obtain ⟨answer, mem, told⟩ := shows
  exact ⟨answer, List.mem_of_mem_drop mem, told⟩

/-- While a cycle waits for the status of a, the choice of b returns without the progress of b. And
while a cycle waits for the run state, the server is suspended but shows as running. -/
theorem forced_not_there :
    let busy := acts {} .name suspendable late
      [.refresh, .choose (some "a"), .turn (.tick false), .turn (.answer 0)]
    let chosen := ((select (some "b") busy.1).runWith (attended suspendable late) busy.2).2
    let idle := acts {} .name suspendable late [.refresh]
    let toggled := (carryOut .toggle idle.1).runWith (attended suspendable late) idle.2
    (chosen.2.heard ++ toggled.2.2.heard).all (fun exchange => exchange.2.outcome.isOk) = true ∧
      chosen.1.board.roster.jobs.map Snapshot.uuid = ["a", "b"] ∧
      chosen.1.board.selected = some "b" ∧ chosen.1.board.detail = none ∧
      toggled.1 = .ok (.switched .suspended) ∧ toggled.2.1.board.runState = .running ∧
      reading (suspendable toggled.2.2.heard stateCall) = .ok .suspended := by
  decide +kernel

end Console

end BackupConsole
