import BackupConsole.Proofs.Console.Invariant
import BackupConsole.Proofs.Polling.Orderly

set_option autoImplicit false

namespace BackupConsole

open Wire Polling Step

namespace Polling

theorem holds_of_orderly {α : Type} {kinds : List Kind} {J : Transcript → Board → Prop}
    (told : ∀ {heard b} exchange, flagsOf (some exchange.1) ⊆ kinds → J heard b →
      J (heard ++ [exchange]) (b.told exchange))
    {script : Script Poll α} (pieces : ∀ p, Pieces (Orderly kinds) none p (script p)) :
    script.Holds fun heard p => J heard p.board := by
  intro heard p now
  have holds : (script p).Holds (fun heard p => J heard p.board) (heard ++ Option.toList none) := by
    refine (pieces p).holds (P := fun call => flagsOf (some call) ⊆ kinds)
      (fun orderly asks => asks ▸ orderly.asks) ?_ nofun now
    intro heard cue found step allowed orderly now
    rw [orderly.board]
    cases cue with
    | none =>
      rw [Option.toList_none, List.append_nil]
      exact now
    | some exchange => exact told exchange (allowed exchange rfl) now
  rw [Option.toList_none, List.append_nil] at holds
  exact holds

end Polling

/-- The job `uuid` shows without schedules, and they have not been asked for since `before`. -/
structure Missing (uuid : String) (before heard : Transcript) (b : Board) : Prop where
  selected : b.selected = some uuid
  schedules : b.schedules = []
  unasked : ∃ more, heard = before ++ more ∧ ∀ exchange ∈ more, kindOf? exchange.1 ≠ some .schedules

theorem Board.schedules_told (b : Board) {exchange : Call × Answer}
    (other : kindOf? exchange.1 ≠ some .schedules) :
    (b.told exchange).schedules = b.schedules := by
  rw [told]
  cases asks : queryOf? exchange.1 with
  | none => rfl
  | some query =>
    cases query with
    | schedules uuid =>
      rw [kindOf?, asks] at other
      exact absurd rfl other
    | list | state | status _ | detail _ => rfl

namespace Missing

variable {uuid : String} {before heard : Transcript} {b : Board}

theorem start (selected : b.selected = some uuid) (schedules : b.schedules = [])
    (heard : Transcript) : Missing uuid heard heard b :=
  ⟨selected, schedules, [], (List.append_nil _).symm, fun _ mem => absurd mem List.not_mem_nil⟩

theorem told (missing : Missing uuid before heard b) {exchange : Call × Answer}
    (other : kindOf? exchange.1 ≠ some .schedules) :
    Missing uuid before (heard ++ [exchange]) (b.told exchange) := by
  obtain ⟨more, rfl, unasked⟩ := missing.unasked
  refine ⟨?_, ?_, more ++ [exchange], List.append_assoc .., ?_⟩
  · rw [b.selected_told, missing.selected]
  · rw [b.schedules_told other, missing.schedules]
  · exact List.forall_mem_append.mpr ⟨unasked, List.forall_mem_singleton.mpr other⟩

theorem holds {α : Type} {kinds : List Kind} (spared : .schedules ∉ kinds) {script : Script Poll α}
    (pieces : ∀ p, Pieces (Orderly kinds) none p (script p)) :
    (Console.polling script).Holds fun heard c => Missing uuid before heard c.board := by
  refine Console.holds_polling fun c => holds_of_orderly ?_ pieces
  intro heard b exchange allowed missing
  refine missing.told fun asks => spared ?_
  rw [flagsOf_of_kind asks] at allowed
  exact allowed (List.mem_singleton_self _)

end Missing

namespace Console

theorem held_missing (uuid : String) (before : Transcript) :
    Held fun heard c => Missing uuid before heard c.board where
  cycle := fun withJobList => Missing.holds (by decide) (pieces_orderly_cycle withJobList)
  carryOut := fun order => Missing.holds (by decide) (pieces_orderly_carryOut order)
  pump := by
    intro heard c missing
    rw [c.board_pump]
    exact missing
  applyNext := by
    intro heard c missing
    rw [board, c.poll_applyNext]
    exact missing
  setSort := fun _ missing => missing
  aside := fun board _ _ missing => board ▸ missing

theorem holds_select_same (uuid : String) (before : Transcript) :
    (select (some uuid)).Holds fun heard c => Missing uuid before heard c.board := by
  intro heard c missing
  rw [select_apply, if_pos missing.selected]
  exact missing

def restOfChoice : Script Console Bool := do
  let _ ← polling (Polling.refresh .jobInfo)
  settled

theorem holds_restOfChoice (uuid : String) (before : Transcript) :
    restOfChoice.Holds fun heard c => Missing uuid before heard c.board := by
  have pieces (p : Poll) : Pieces (Orderly [.jobInfo]) none p (Polling.refresh .jobInfo p) :=
    pieces_orderly_refresh (by decide) p
  have refresh : (polling (Polling.refresh .jobInfo)).Holds
      fun heard c => Missing uuid before heard c.board := Missing.holds (by decide) pieces
  exact refresh.bind fun _ heard c missing => (held_missing uuid before).pump missing

variable {c : Console} {uuid : String}

theorem select_other (other : c.board.selected ≠ some uuid) :
    select (some uuid) c =
      (polling (Polling.refresh .schedules) (c.selecting (some uuid))).bind fun _ => restOfChoice := by
  rw [select_apply, if_neg other]
  exact polling_fetch _

theorem board_selecting (other : c.board.selected ≠ some uuid) :
    (c.selecting (some uuid)).board =
      { c.board with selected := some uuid, detail := none, schedules := [] } :=
  congrArg Prod.snd (if_neg other : c.board.select (some uuid) = _)

section

variable {ω : Type} {serve : Call → ω → Answer × ω} {world : ω} {cause : Failure}
  (fails : (serve (schedulesCall uuid) world).1.outcome = .error cause)
include fails

theorem board_of_undelivered {p : Poll} (selected : p.board.selected = some uuid) :
    ((Polling.refresh .schedules p).run serve world).2.1.board = p.board := by
  rw [refresh_schedules_apply selected]
  split
  · rfl
  · rw [land_apply]
    change ((landed (Poll.receive _ (.schedules uuid) (serve (schedulesCall uuid) world).1)).run
      serve _).2.1.board = p.board
    obtain ⟨result, _, lands⟩ | ⟨_, other, _⟩ := Poll.landed_receive (p.occupy .schedules)
      (.schedules uuid) (serve (schedulesCall uuid) world).1
    · rw [lands]
      exact Board.filed_schedules_of_error _ fails
    · cases other

theorem select_undelivered (other : c.board.selected ≠ some uuid) :
    let chosen := ((select (some uuid) c).run serve world).2.1
    chosen.board.selected = some uuid ∧ chosen.board.schedules = [] := by
  have moves := board_selecting other
  have selected : (c.selecting (some uuid)).poll.board.selected = some uuid :=
    congrArg Board.selected moves
  have kept := board_of_undelivered fails selected
  have first := run_polling_alone (Polling.refresh .schedules) serve (c.selecting (some uuid)) world
  generalize (Polling.refresh .schedules (c.selecting (some uuid)).poll).run serve world = ran
    at kept first
  obtain ⟨result, p, left⟩ := ran
  have missing : Missing uuid [] [] p.board := by
    refine .start ?_ ?_ []
    · exact (congrArg Board.selected kept).trans selected
    · exact (congrArg Board.schedules kept).trans (congrArg Board.schedules moves)
  -- what is left of the choice asks for progress only
  obtain ⟨_, later⟩ := (holds_restOfChoice uuid [] [] { c.selecting (some uuid) with poll := p }
    missing).run serve left
  rw [Step.run] at first later
  dsimp only
  rw [Step.run, select_other other, runWith_bind, first]
  exact ⟨later.selected, later.schedules⟩

end

end Console

end BackupConsole
