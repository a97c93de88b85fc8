import Mathlib.Data.List.Basic

set_option autoImplicit false

namespace BackupConsole

variable {α : Type} {le first second : α → α → Bool}

structure Compares (le : α → α → Bool) : Prop where
  trans : ∀ a b c, le a b → le b c → le a c
  total : ∀ a b, le a b || le b a

def tied (le : α → α → Bool) (a b : α) : Bool := le a b && le b a

def decidedBy (second first : α → α → Bool) (a b : α) : Bool :=
  second a b && (!second b a || first a b)

/-- A sorted arrangement in which tied elements stand as they were given. -/
structure StableSorted (le : α → α → Bool) (given sorted : List α) : Prop where
  perm : sorted.Perm given
  ordered : sorted.Pairwise fun a b => le a b
  ties : ∀ a, sorted.filter (tied le a) = given.filter (tied le a)

namespace Compares

theorem tied_self (compares : Compares le) (a : α) : tied le a a = true := by
  simpa [tied] using compares.total a a

theorem decidedBy (hs : Compares second) (hf : Compares first) :
    Compares (decidedBy second first) := by
  refine ⟨?_, ?_⟩
  · intro a b c ab bc
    simp only [BackupConsole.decidedBy, Bool.and_eq_true, Bool.or_eq_true,
      Bool.not_eq_true'] at ab bc ⊢
    refine ⟨hs.trans a b c ab.1 bc.1, ?_⟩
    by_cases back : second c a = true
    · have tiedAb := hs.trans b c a bc.1 back
      have tiedBc := hs.trans c a b back ab.1
      rw [tiedAb] at ab
      rw [tiedBc] at bc
      right
      exact hf.trans a b c (by simpa using ab.2) (by simpa using bc.2)
    · left
      exact Bool.eq_false_iff.mpr back
  · intro a b
    have one := hs.total a b
    have other := hf.total a b
    rw [Bool.or_eq_true] at one other ⊢
    simp only [BackupConsole.decidedBy, Bool.and_eq_true, Bool.or_eq_true, Bool.not_eq_true']
    by_cases ab : second a b = true
    · by_cases ba : second b a = true
      · rcases other with le | le
        · exact Or.inl ⟨ab, Or.inr le⟩
        · exact Or.inr ⟨ba, Or.inr le⟩
      · exact Or.inl ⟨ab, Or.inl (Bool.eq_false_iff.mpr ba)⟩
    · exact Or.inr ⟨one.resolve_left ab, Or.inl (Bool.eq_false_iff.mpr ab)⟩

end Compares

theorem tied_decidedBy (a b : α) :
    tied (decidedBy second first) a b = (tied second a b && tied first a b) := by
  unfold tied decidedBy
  cases second a b <;> cases second b a <;> simp

theorem filter_tied_decidedBy (a : α) (l : List α) :
    l.filter (tied (decidedBy second first) a) =
      (l.filter (tied second a)).filter (tied first a) := by
  rw [List.filter_filter]
  congr 1
  funext b
  rw [tied_decidedBy, Bool.and_comm]

section

variable (compares : Compares le)
include compares

theorem stableSorted_mergeSort (l : List α) : StableSorted le l (l.mergeSort le) := by
  have perm := List.mergeSort_perm l le
  refine ⟨perm, List.pairwise_mergeSort compares.trans compares.total l, ?_⟩
  intro a
  have allTied : (l.filter (tied le a)).Pairwise fun b c => le b c := by
    rw [List.pairwise_filter]
    refine List.pairwise_of_forall ?_
    intro b c hb hc
    simp only [tied, Bool.and_eq_true] at hb hc
    exact compares.trans b a c hb.2 hc.1
  have kept := List.sublist_mergeSort compares.trans compares.total allTied List.filter_sublist
  have inside := kept.filter (tied le a)
  rw [List.filter_filter] at inside
  simp only [Bool.and_self] at inside
  exact (inside.eq_of_length (perm.filter _).length_eq.symm).symm

theorem StableSorted.unique {given one other : List α} (h : StableSorted le given one)
    (h' : StableSorted le given other) : one = other := by
  have perm := h.perm.trans h'.perm.symm
  have ties : ∀ a, one.filter (tied le a) = other.filter (tied le a) :=
    fun a => (h.ties a).trans (h'.ties a).symm
  have ordered := h.ordered
  have ordered' := h'.ordered
  clear h h'
  induction one generalizing other with
  | nil => exact perm.nil_eq
  | cons a one ih =>
    cases other with
    | nil => exact perm.eq_nil
    | cons b other =>
      rw [List.pairwise_cons] at ordered ordered'
      have ab : le a b = true := by
        rcases List.mem_cons.mp (perm.mem_iff.mpr (List.mem_cons_self (a := b))) with same | mem
        · simpa [tied, same] using compares.tied_self a
        · exact ordered.1 b mem
      have ba : le b a = true := by
        rcases List.mem_cons.mp (perm.mem_iff.mp (List.mem_cons_self (a := a))) with same | mem
        · simpa [tied, same] using compares.tied_self b
        · exact ordered'.1 a mem
      -- both lists begin with the first of the elements tied with `a`
      have heads := ties a
      rw [List.filter_cons_of_pos (compares.tied_self a),
        List.filter_cons_of_pos (by simp [tied, ab, ba])] at heads
      obtain rfl : a = b := (List.cons.inj heads).1
      congr 1
      refine ih perm.cons_inv ?_ ordered.2 ordered'.2
      intro c
      have here := ties c
      simp only [List.filter_cons] at here
      split at here
      · exact (List.cons.inj here).2
      · exact here

end

section

variable (hs : Compares second) (hf : Compares first)
include hs hf

/-- Sorting by the second comparison alone also sorts by the first one exactly if tied elements are
given in the order of the first. -/
theorem mergeSort_eq_mergeSort_decidedBy_iff (l : List α) :
    l.mergeSort second = l.mergeSort (decidedBy second first) ↔
      l.Pairwise fun a b => tied second a b → first a b := by
  have sorted := stableSorted_mergeSort (hs.decidedBy hf) l
  have plain := stableSorted_mergeSort hs l
  constructor
  · intro same
    rw [List.pairwise_iff_forall_sublist]
    intro a b given ties
    simp only [tied, Bool.and_eq_true] at ties
    have shown := List.pair_sublist_mergeSort hs.trans hs.total ties.1 given
    rw [same] at shown
    have ordered := List.pairwise_iff_forall_sublist.mp sorted.ordered shown
    simpa [decidedBy, ties.1, ties.2] using ordered
  · intro given
    have ordered : (l.mergeSort second).Pairwise fun a b => decidedBy second first a b := by
      rw [List.pairwise_iff_forall_sublist]
      intro a b shown
      have le := List.pairwise_iff_forall_sublist.mp plain.ordered shown
      by_cases back : second b a = true
      · have ties : tied second a b = true := by simp [tied, le, back]
        have both := shown.filter (tied second a)
        rw [plain.ties a] at both
        simp only [List.filter_cons, hs.tied_self, ties, if_true, List.filter_nil] at both
        have before := List.pairwise_iff_forall_sublist.mp given (both.trans List.filter_sublist)
        simp [decidedBy, le, before ties]
      · simp [decidedBy, le, back]
    refine StableSorted.unique (hs.decidedBy hf) ⟨plain.perm, ordered, ?_⟩ sorted
    intro a
    rw [filter_tied_decidedBy, filter_tied_decidedBy, plain.ties a]

/-- Sorting again by another comparison keeps the earlier order where the new one leaves a tie. -/
theorem mergeSort_mergeSort (l : List α) :
    (l.mergeSort first).mergeSort second = l.mergeSort (decidedBy second first) := by
  have before := stableSorted_mergeSort hf l
  have again : (l.mergeSort first).mergeSort second =
      (l.mergeSort first).mergeSort (decidedBy second first) := by
    rw [mergeSort_eq_mergeSort_decidedBy_iff hs hf]
    exact before.ordered.imp fun {a b} le (_ : tied second a b = true) => le
  have sorted := stableSorted_mergeSort (hs.decidedBy hf) (l.mergeSort first)
  rw [again]
  refine StableSorted.unique (hs.decidedBy hf) ⟨sorted.perm.trans before.perm, sorted.ordered, ?_⟩
    (stableSorted_mergeSort (hs.decidedBy hf) l)
  intro a
  rw [sorted.ties, filter_tied_decidedBy, filter_tied_decidedBy, List.filter_filter,
    List.filter_filter]
  simp only [Bool.and_comm (tied first a _)]
  rw [← List.filter_filter, ← List.filter_filter, before.ties a]

end

end BackupConsole
