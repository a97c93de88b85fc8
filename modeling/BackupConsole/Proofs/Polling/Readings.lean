import BackupConsole.Proofs.Polling.Refresh
import Mathlib.Data.List.DropRight

set_option autoImplicit false

namespace BackupConsole.Polling

open Wire

/-- What an answer about the run state tells, or why it tells nothing. -/
abbrev Reading := Except Failure RunState

def reading (answer : Answer) : Reading := Poll.decoded RunState.ofFields answer

def failed (r : Reading) : Bool := !r.isOk

variable {rs : List Reading} {threshold : UInt32}

def LastFailed (n : Nat) (rs : List Reading) : Prop :=
  ∃ before last, rs = before ++ last ∧ last.length = n ∧ ∀ r ∈ last, failed r = true

def failedAtEnd (rs : List Reading) : Nat := (rs.rtakeWhile failed).length

/-- A server counts as running until it has told its state. -/
def lastRead (rs : List Reading) : RunState := (rs.filterMap Except.toOption).getLastD .running

/-- Why polling stops after these readings, if it does. -/
def loss? (threshold : UInt32) (rs : List Reading) : Option Stop :=
  match rs.getLast? with
  | some (.error cause) =>
    if threshold.toNat < failedAtEnd rs then some (.runStateLost (threshold + 1) cause) else none
  | _ => none

theorem lastFailed_iff (n : Nat) (rs : List Reading) : LastFailed n rs ↔ n ≤ failedAtEnd rs := by
  constructor
  · rintro ⟨before, last, rfl, rfl, fail⟩
    have fails : ∀ r ∈ last.reverse, failed r = true := fun r mem =>
      fail r (List.mem_reverse.mp mem)
    rw [failedAtEnd, List.rtakeWhile, List.reverse_append, List.takeWhile_append_of_pos fails]
    simp
  · intro enough
    have split : rs = rs.rdropWhile failed ++ rs.rtakeWhile failed :=
      List.rdropWhile_append_rtakeWhile.symm
    refine ⟨rs.rdropWhile failed ++ (rs.rtakeWhile failed).take (failedAtEnd rs - n),
      (rs.rtakeWhile failed).drop (failedAtEnd rs - n), ?_, ?_, ?_⟩
    · rw [List.append_assoc, List.take_append_drop]
      exact split
    · rw [List.length_drop]
      exact Nat.sub_sub_self enough
    · exact fun r mem => List.mem_rtakeWhile_imp (List.mem_of_mem_drop mem)

theorem failedAtEnd_concat (rs : List Reading) (r : Reading) :
    failedAtEnd (rs ++ [r]) = if failed r then failedAtEnd rs + 1 else 0 := by
  rw [failedAtEnd, List.rtakeWhile_concat]
  split
  · rw [List.length_append]
    rfl
  · rfl

theorem lastRead_concat (rs : List Reading) (answer : Answer) :
    lastRead (rs ++ [reading answer]) = toldState answer (lastRead rs) := by
  rw [lastRead, List.filterMap_append, toldState, reading]
  cases Poll.decoded RunState.ofFields answer with
  | ok told => simp [Except.toOption]
  | error cause => simp [Except.toOption, lastRead]

theorem loss?_isSome : (loss? threshold rs).isSome = decide (threshold.toNat < failedAtEnd rs) := by
  rcases rs.eq_nil_or_concat with rfl | ⟨before, last, rfl⟩
  · simp [loss?, failedAtEnd]
  · rw [List.concat_eq_append, loss?, List.getLast?_concat]
    cases last with
    | ok told => simp [failedAtEnd_concat, failed, Except.isOk, Except.toBool]
    | error cause =>
      dsimp only
      by_cases lost : threshold.toNat < failedAtEnd (before ++ [.error cause])
      · simp [lost]
      · simp [lost]

theorem loss?_eq_none_iff :
    loss? threshold rs = none ↔ failedAtEnd rs ≤ threshold.toNat := by
  rw [← Option.isNone_iff_eq_none, ← Option.not_isSome, Bool.not_eq_true', loss?_isSome,
    decide_eq_false_iff_not, Nat.not_lt]

theorem loss?_eq_some {stop : Stop} (lost : loss? threshold rs = some stop) :
    ∃ cause, rs.getLast? = some (.error cause) ∧ stop = .runStateLost (threshold + 1) cause := by
  unfold loss? at lost
  split at lost
  · rename_i cause last
    split at lost
    · cases lost
      exact ⟨cause, last, rfl⟩
    · cases lost
  · cases lost

theorem toNat_succ {n : UInt32} (small : n.toNat + 1 < UInt32.size) :
    (n + 1).toNat = n.toNat + 1 := by
  rw [UInt32.toNat_add]
  exact Nat.mod_eq_of_lt small

section

variable {settings : Settings} {failures : UInt32} (answer : Answer)
  (count : failures.toNat = failedAtEnd rs)
  (tolerated : failedAtEnd rs ≤ settings.threshold.toNat)
  (small : settings.threshold.toNat + 1 < UInt32.size)
include count tolerated small

theorem succ_failures : (failures + 1).toNat = failedAtEnd rs + 1 := by
  rw [toNat_succ (by omega), count]

theorem toldFailures_eq :
    (toldFailures answer failures).toNat = failedAtEnd (rs ++ [reading answer]) := by
  rw [failedAtEnd_concat, toldFailures, reading]
  cases Poll.decoded RunState.ofFields answer with
  | ok told => rfl
  | error cause => exact succ_failures count tolerated small

theorem stop?_eq_loss? :
    stop? settings failures answer = loss? settings.threshold (rs ++ [reading answer]) := by
  have next := succ_failures count tolerated small
  rw [stop?, loss?, List.getLast?_concat, reading, failedAtEnd_concat]
  cases Poll.decoded RunState.ofFields answer with
  | ok told => rfl
  | error cause =>
    simp only [failed, Except.isOk, Except.toBool, Bool.not_false, if_true, UInt32.lt_iff_toNat_lt,
      next]
    by_cases lost : settings.threshold.toNat < failedAtEnd rs + 1
    · have same : failures + 1 = settings.threshold + 1 := by
        apply UInt32.toNat_inj.mp
        rw [next, toNat_succ small]
        omega
      rw [if_pos lost, if_pos lost, same]
    · rw [if_neg lost, if_neg lost]

end

end BackupConsole.Polling
