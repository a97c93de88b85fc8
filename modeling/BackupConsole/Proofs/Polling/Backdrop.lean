import BackupConsole.Proofs.Polling.Orderly
import BackupConsole.Proofs.Script.Transcript

/-!
# Work before a backdrop of cycles

Cycles go on in the background while a script of polling waits for its answers. All make their calls
on one connection, where one call is answered after the other. Whatever the pace, the flags taken are
those of the calls that wait, and the board is what the answers have told, in the order in which they
came.
-/

set_option autoImplicit false

namespace BackupConsole

open Job Wire Step Polling

namespace Board

def toldAll (b : Board) (heard : Transcript) : Board := heard.foldl told b

theorem toldAll_append (b : Board) (heard more : Transcript) :
    b.toldAll (heard ++ more) = (b.toldAll heard).toldAll more := List.foldl_append

theorem toldAll_concat (b : Board) (heard : Transcript) (exchange : Call × Answer) :
    b.toldAll (heard ++ [exchange]) = (b.toldAll heard).told exchange := List.foldl_concat ..

theorem selected_toldAll (b : Board) (heard : Transcript) :
    (b.toldAll heard).selected = b.selected := by
  induction heard using List.reverseRecOn with
  | nil => rfl
  | append_singleton heard exchange ih => rw [toldAll_concat, selected_told, ih]

/-- A part of the board that only the answers to one query tell is what the last of them has told. -/
theorem toldAll_last {β : Type} (b : Board) (heard : Transcript) (part : Board → β) (query : Query)
    (value : Answer → β)
    (others : ∀ (c : Board) answer other, c.selected = b.selected → other ≠ query →
      part (c.filed answer other) = part c)
    (own : ∀ (c : Board) answer, c.selected = b.selected → (query.call, answer) ∈ heard →
      part (c.filed answer query) = value answer) :
    (part (b.toldAll heard) = part b ∧ ∀ answer, (query.call, answer) ∉ heard) ∨
      ∃ answer, (query.call, answer) ∈ heard ∧ part (b.toldAll heard) = value answer := by
  induction heard using List.reverseRecOn with
  | nil => exact .inl ⟨rfl, fun _ => List.not_mem_nil⟩
  | append_singleton heard exchange ih =>
    obtain ⟨call, answer⟩ := exchange
    have same := b.selected_toldAll heard
    have before := ih fun c answer kept mem => own c answer kept (List.mem_append_left _ mem)
    rw [toldAll_concat]
    by_cases asks : queryOf? call = some query
    · obtain rfl := call_of_queryOf? asks
      have last : (query.call, answer) ∈ heard ++ [(query.call, answer)] :=
        List.mem_append_right _ (List.mem_singleton.mpr rfl)
      rw [told_call]
      exact .inr ⟨answer, last, own _ answer same last⟩
    · have kept : part ((b.toldAll heard).told (call, answer)) = part (b.toldAll heard) := by
        rw [told]
        rcases query' : queryOf? call with _ | other
        · rfl
        · rw [query'] at asks
          exact others _ answer other same fun equal => asks (congrArg some equal)
      have mem_iff (other : Answer) :
          (query.call, other) ∈ heard ++ [(call, answer)] ↔ (query.call, other) ∈ heard := by
        rw [List.mem_append, List.mem_singleton]
        refine or_iff_left fun equal => asks ?_
        rw [← (Prod.mk.inj equal).1, queryOf?_call]
      simp only [mem_iff, kept]
      exact before

theorem detail_toldAll {b : Board} {uuid : String} (selected : b.selected = some uuid)
    (empty : b.detail = none) {heard : Transcript}
    (delivered : ∀ answer, (detailCall uuid, answer) ∈ heard → answer.outcome = .ok ()) :
    (∃ detail, (b.toldAll heard).detail = some detail ∧ detail.uuid = uuid) ↔
      ∃ answer, (detailCall uuid, answer) ∈ heard := by
  have last := b.toldAll_last heard Board.detail (.detail uuid)
    (fun answer => some (Detail.ofFields uuid (answer.rows.foldl Fields.extend .empty)))
    (by
      intro c answer other same ne
      cases other with
      | detail asked =>
        have foreign : ¬some uuid = some asked := by
          rintro ⟨⟩
          exact ne rfl
        rw [filed, toldDetail?, same, selected, if_neg foreign, Option.none_or]
      | list | state | status _ | schedules _ => rfl)
    (by
      intro c answer same mem
      rw [filed, toldDetail?, same, selected, if_pos rfl, Answer.merged, delivered answer mem]
      rfl)
  obtain ⟨none, never⟩ | ⟨answer, mem, stored⟩ := last
  · rw [none, empty]
    refine iff_of_false ?_ (not_exists.mpr never)
    rintro ⟨_, impossible, _⟩
    cases impossible
  · exact iff_of_true ⟨_, stored, rfl⟩ ⟨answer, mem⟩

theorem runState_toldAll (b : Board) {heard : Transcript}
    (tells : ∀ answer, (stateCall, answer) ∈ heard → (reading answer).isOk = true) :
    (∃ answer, (stateCall, answer) ∈ heard ∧ reading answer = .ok (b.toldAll heard).runState) ↔
      ∃ answer, (stateCall, answer) ∈ heard := by
  refine ⟨fun ⟨answer, mem, _⟩ => ⟨answer, mem⟩, fun asked => ?_⟩
  have last := b.toldAll_last heard (fun b => (.ok b.runState : Reading)) .state reading
    (by
      intro c answer other _ ne
      cases other with
      | state => exact absurd rfl ne
      | list | status _ | detail _ | schedules _ => rfl)
    (by
      intro c answer _ mem
      have reads := tells answer mem
      change Except.ok (toldState answer c.runState) = reading answer
      rw [toldState]
      change _ = Poll.decoded RunState.ofFields answer
      rw [reading] at reads
      cases told : Poll.decoded RunState.ofFields answer with
      | ok state => rfl
      | error cause =>
        rw [told] at reads
        cases reads)
  obtain ⟨_, never⟩ | ⟨answer, mem, told⟩ := last
  · obtain ⟨answer, mem⟩ := asked
    exact absurd mem (never answer)
  · exact ⟨answer, mem, told.symm⟩

end Board

namespace Polling

/-! ## Turns of the background -/

inductive Turn where
  | tick (withJobList : Bool)
  | answer (place : Nat)

/-- The cycles that wait, and all that has been asked and answered. -/
structure Backdrop where
  cycles : List (Waiting Poll (Except Stop Unit)) := []
  heard : Transcript := []

namespace Backdrop

def flags (b : Backdrop) : List Kind := b.cycles.flatMap fun next => flagsOf (some next.call)

def note (b : Backdrop) (server : Responder) (call : Call) : Backdrop :=
  { b with heard := b.heard ++ [(call, server b.heard call)] }

def goOn (b : Backdrop) (step : Step Poll (Except Stop Unit)) : Backdrop :=
  { b with cycles := b.cycles ++ step.waiting?.toList }

end Backdrop

abbrev Scene := Poll × Backdrop

namespace Scene

def turn (server : Responder) (now : Scene) : Turn → Scene
  | .tick withJobList =>
    let step := cycle withJobList now.1
    (step.state, now.2.goOn step)
  | .answer place =>
    match now.2.cycles[place]? with
    | none => now
    | some next =>
      let step := next.resume (server now.2.heard next.call) now.1
      let others := { now.2 with cycles := now.2.cycles.eraseIdx place }
      (step.state, (others.note server next.call).goOn step)

def turns (server : Responder) (now : Scene) (turns : List Turn) : Scene :=
  turns.foldl (turn server) now

end Scene

/-- What the background does before the next answer comes. -/
abbrev Pace := Transcript → List Turn

/-- A call of the foreground is answered after some turns of the background. -/
def attended (server : Responder) (pace : Pace) (call : Call) (b : Backdrop) (p : Poll) :
    Answer × Backdrop × Poll :=
  let now := Scene.turns server (p, b) (pace b.heard)
  (server now.2.heard call, now.2.note server call, now.1)

/-- Between calls, the flags taken are those of the calls that wait, the foreground's among them. -/
structure Scene.Fits (own : List Kind) (now : Scene) : Prop where
  orderly : ∀ next ∈ now.2.cycles, next.Pieces (Orderly cycleKinds)
  taken : now.1.busy.Perm (own ++ now.2.flags)
  alone : now.1.busy.Nodup
  alive : now.1.terminated = false

structure Scene.Grown (server : Responder) (before : Scene) (more : Transcript) (after : Scene) :
    Prop where
  heard : after.2.heard = before.2.heard ++ more
  board : after.1.board = before.1.board.toldAll more
  answered : ∀ exchange ∈ more, ∃ heard, server heard exchange.1 = exchange.2

namespace Scene

section

variable {server : Responder} {a b c now : Scene} {more later : Transcript} {own : List Kind}

theorem Grown.refl (now : Scene) : Grown server now [] now :=
  ⟨(List.append_nil _).symm, rfl, fun _ mem => absurd mem List.not_mem_nil⟩

theorem Grown.trans (first : Grown server a more b) (second : Grown server b later c) :
    Grown server a (more ++ later) c where
  heard := by rw [second.heard, first.heard, List.append_assoc]
  board := by rw [second.board, first.board, Board.toldAll_append]
  answered := List.forall_mem_append.mpr ⟨first.answered, second.answered⟩

theorem Grown.answer {α : Type} {kinds : List Kind} {call : Call} {p : Poll} {b other : Backdrop} {step : Step Poll α}
    (orderly : Orderly kinds (some (call, server b.heard call)) p step)
    (heard : other.heard = b.heard ++ [(call, server b.heard call)]) :
    Grown server (p, b) [(call, server b.heard call)] (step.state, other) where
  heard := heard
  board := orderly.board
  answered := List.forall_mem_singleton.mpr ⟨b.heard, rfl⟩

theorem flags_goOn (b : Backdrop) (step : Step Poll (Except Stop Unit)) :
    (b.goOn step).flags = b.flags ++ flagsOf step.call? := by
  rw [Backdrop.flags, Backdrop.goOn, List.flatMap_append]
  congr 1
  cases step with
  | done value state => rfl
  | ask call state resume => exact List.append_nil _

theorem flags_perm {b : Backdrop} {place : Nat} {next : Waiting Poll (Except Stop Unit)}
    (here : b.cycles[place]? = some next) :
    b.flags.Perm (flagsOf (some next.call) ++
      Backdrop.flags { b with cycles := b.cycles.eraseIdx place }) := by
  obtain ⟨inside, rfl⟩ := List.getElem?_eq_some_iff.mp here
  exact ((List.getElem_cons_eraseIdx_perm inside).flatMap_right
    fun next => flagsOf (some next.call)).symm

end

section

variable {server : Responder} (tells : ∀ heard, (reading (server heard stateCall)).isOk = true)
  {kinds own : List Kind} {now : Scene}
include tells

theorem Fits.goOn {p : Poll} {b : Backdrop} (heard : Transcript) (call? : Option Call)
    {step : Step Poll (Except Stop Unit)}
    (orderly : ∀ next ∈ b.cycles, next.Pieces (Orderly cycleKinds))
    (taken : p.busy.Perm (flagsOf call? ++ (own ++ b.flags))) (alone : p.busy.Nodup)
    (alive : p.terminated = false)
    (pieces : Pieces (Orderly cycleKinds) (call?.map fun call => (call, server heard call)) p step) :
    Fits own (step.state, b.goOn step) := by
  have piece := pieces.first
  refine ⟨?_, ?_, piece.nodup alone, ?_⟩
  · refine List.forall_mem_append.mpr ⟨orderly, fun next mem => ?_⟩
    exact pieces.waiting (Option.mem_toList.mp mem)
  · have flags := piece.flags (own ++ b.flags) (by cases call? <;> exact taken)
    refine flags.trans ?_
    rw [flags_goOn, ← List.append_assoc own]
    exact List.perm_append_comm
  · refine (piece.alive fun answer same => ?_).trans alive
    obtain ⟨call, _, equal⟩ := Option.map_eq_some_iff.mp same
    cases equal
    exact tells heard

theorem Fits.turn (fits : now.Fits own) (turn : Turn) :
    (now.turn server turn).Fits own ∧ ∃ more, Grown server now more (now.turn server turn) := by
  obtain ⟨p, b⟩ := now
  cases turn with
  | tick withJobList =>
    have pieces := pieces_orderly_cycle withJobList p
    refine ⟨Fits.goOn tells b.heard none fits.orderly fits.taken fits.alone
      fits.alive pieces, [], ?_⟩
    exact ⟨(List.append_nil _).symm, pieces.first.board, fun _ mem => absurd mem List.not_mem_nil⟩
  | answer place =>
    unfold Scene.turn
    dsimp only
    split
    · exact ⟨fits, [], .refl _⟩
    · rename_i next here
      have pieces := fits.orderly next (List.mem_of_getElem? here) (server b.heard next.call) p
      have others : ∀ next ∈ b.cycles.eraseIdx place, next.Pieces (Orderly cycleKinds) := fun next mem =>
        fits.orderly next (List.mem_of_mem_eraseIdx mem)
      have taken := fits.taken.trans ((flags_perm here).append_left own)
      refine ⟨Fits.goOn tells b.heard (some next.call) others ?_ fits.alone
        fits.alive pieces, _, .answer pieces.first rfl⟩
      refine taken.trans ?_
      rw [← List.append_assoc, ← List.append_assoc]
      exact List.perm_append_comm.append_right _

theorem Fits.turns (fits : now.Fits own) (turns : List Turn) :
    (now.turns server turns).Fits own ∧ ∃ more, Grown server now more (now.turns server turns) := by
  induction turns generalizing now with
  | nil => exact ⟨fits, [], .refl now⟩
  | cons turn rest ih =>
    obtain ⟨fits, more, grown⟩ := fits.turn tells turn
    obtain ⟨fits, later, grown'⟩ := ih fits
    exact ⟨fits, _, grown.trans grown'⟩

theorem Fits.resumes {α : Type} (pace : Pace) {cue : Cue} {found : Poll} {step : Step Poll α}
    {b : Backdrop} (fits : Fits (flagsOf step.call?) (step.state, b))
    (pieces : Pieces (Orderly kinds) cue found step) :
    let ran := step.runWith (attended server pace) b
    Fits [] ran.2 ∧ ∃ more, Grown server (step.state, b) more ran.2 ∧
      ∀ call, step.Comes server call → ∃ answer, (call, answer) ∈ more := by
  induction step generalizing b cue found with
  | done value p => exact ⟨fits, [], .refl _, fun _ comes => comes.elim⟩
  | ask call p resume ih =>
    obtain ⟨fits, more, grown⟩ := fits.turns tells (pace b.heard)
    dsimp only [state] at fits grown ⊢
    dsimp only [runWith, attended]
    generalize Scene.turns server (p, b) (pace b.heard) = turned at fits grown ⊢
    obtain ⟨q, others⟩ := turned
    have pieces := pieces.2 (server others.heard call) q
    have piece := pieces.first
    have next : Fits (flagsOf (resume (server others.heard call) q).call?)
        ((resume (server others.heard call) q).state, others.note server call) :=
      { orderly := fits.orderly
        taken := piece.flags others.flags fits.taken
        alone := piece.nodup fits.alone
        alive := (piece.alive fun answer same => by
          cases same
          exact tells others.heard).trans fits.alive }
    obtain ⟨fits, later, grown', asked⟩ := ih _ _ next pieces
    refine ⟨fits, _, (grown.trans (.answer piece rfl)).trans grown', fun other comes => ?_⟩
    obtain rfl | comes := comes
    · exact ⟨_, List.mem_append_left _ (List.mem_append_right _ (List.mem_singleton.mpr rfl))⟩
    · obtain ⟨answer, mem⟩ := asked other (comes _ _)
      exact ⟨answer, List.mem_append_right _ mem⟩

/-- What a script of the foreground leaves behind, and the calls that it is sure to make. -/
theorem Fits.runs {α : Type} (fits : now.Fits []) (pace : Pace) {step : Step Poll α}
    (pieces : Pieces (Orderly kinds) none now.1 step) :
    let ran := step.runWith (attended server pace) now.2
    Fits [] ran.2 ∧ ∃ more, Grown server now more ran.2 ∧
      ∀ call, step.Comes server call → ∃ answer, (call, answer) ∈ more := by
  have piece := pieces.first
  have begun : Fits (flagsOf step.call?) (step.state, now.2) :=
    { orderly := fits.orderly
      taken := piece.flags now.2.flags fits.taken
      alone := piece.nodup fits.alone
      alive := (piece.alive nofun).trans fits.alive }
  obtain ⟨fits, more, ⟨heard, board, answered⟩, asked⟩ := begun.resumes tells pace pieces
  exact ⟨fits, more, ⟨heard, board.trans (congrArg (Board.toldAll · more) piece.board), answered⟩,
    asked⟩

end

theorem Fits.congr {own : List Kind} {p q : Poll} {b : Backdrop} (fits : Fits own (p, b))
    (busy : q.busy = p.busy) (terminated : q.terminated = p.terminated) : Fits own (q, b) where
  orderly := fits.orderly
  taken := busy ▸ fits.taken
  alone := busy ▸ fits.alone
  alive := terminated.trans fits.alive

/-! ## Refreshes that are let through, or not -/

section

variable {server : Responder} {kind : Kind} {now : Scene} (fits : now.Fits [])
include fits

theorem Fits.isBusy_iff : now.1.isBusy kind = true ↔ kind ∈ now.2.flags := by
  rw [Poll.isBusy_iff_mem]
  exact fits.taken.mem_iff

theorem Fits.covered {flight : Flight} (first : now.1.firstCall kind = .waiting flight)
    (busy : kind ∈ now.2.flags) : refresh kind now.1 = .done (.ok .coalesced) now.1 := by
  rw [refresh_of_firstCall first, if_pos (fits.isBusy_iff.mpr busy)]

theorem Fits.lands {flight : Flight} (first : now.1.firstCall kind = .waiting flight)
    (free : kind ∉ now.2.flags) : refresh kind now.1 = land flight (now.1.occupy kind) := by
  rw [refresh_of_firstCall first, if_neg fun busy => free (fits.isBusy_iff.mp busy)]

theorem Fits.comes_runState (free : .runState ∉ now.2.flags) :
    (refresh .runState now.1).Comes server stateCall := by
  have first : now.1.firstCall .runState = .waiting .runState := by
    rw [Poll.firstCall, fits.alive]
    rfl
  rw [fits.lands first free, land_apply]
  exact .inl rfl

theorem Fits.comes_jobInfo {uuid : String} (selected : now.1.board.selected = some uuid)
    (read : ∀ heard,
      (Poll.decoded Snapshot.ofFields (server heard (statusCall uuid))).isOk = true)
    (free : .jobInfo ∉ now.2.flags) : (refresh .jobInfo now.1).Comes server (detailCall uuid) := by
  have first : now.1.firstCall .jobInfo = .waiting (.jobStatus uuid) := by
    rw [Poll.firstCall, selected]
  rw [fits.lands first free, land_apply]
  refine .inr fun heard found => ?_
  change (landed (found.receive (.jobStatus uuid) (server heard (statusCall uuid)))).Comes _ _
  rw [Poll.receive, Poll.receiveStatus_eq, if_pos (read heard)]
  exact .inl rfl

end

end Scene

end Polling

end BackupConsole
