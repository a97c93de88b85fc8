import BackupConsole.Text.Blank
import Mathlib.Data.List.DropRight

set_option autoImplicit false

namespace BackupConsole.Text

variable {p : Char → Bool}

theorem dropEndWhile_append_of_all (s : List Char) {t : List Char} (all : ∀ c ∈ t, p c = true) :
    dropEndWhile p (s ++ t) = dropEndWhile p s := by
  rw [dropEndWhile, List.reverse_append, List.dropWhile_append_of_pos (by simpa using all)]
  rfl

theorem dropEndWhile_append_cons {x : Char} (stop : p x = false) (s t : List Char) :
    dropEndWhile p (s ++ x :: t) = s ++ x :: dropEndWhile p t := by
  rw [dropEndWhile, List.reverse_append, List.reverse_cons, List.append_assoc, List.dropWhile_append]
  split
  · next none =>
    have nothing : dropEndWhile p t = [] := by
      rw [dropEndWhile, List.isEmpty_iff.mp none, List.reverse_nil]
    simp [nothing, stop]
  · simp [dropEndWhile]

theorem dropEndWhile_append_takeWhile (s : List Char) :
    dropEndWhile p s ++ (s.reverse.takeWhile p).reverse = s := by
  rw [dropEndWhile, ← List.reverse_append, List.takeWhile_append_dropWhile, List.reverse_reverse]

theorem trim_append_of_blank (s : List Char) {t : List Char} (blank : ∀ c ∈ t, isBlank c = true) :
    trim (s ++ t) = trim s := by
  rw [trim, List.dropWhile_append]
  split
  · next none =>
    rw [List.dropWhile_eq_nil_iff.mpr blank, trim, List.isEmpty_iff.mp none]
  · rw [dropEndWhile_append_of_all _ blank, trim]

theorem trim_dropEndWhile (blank : ∀ c, p c = true → isBlank c = true) (s : List Char) :
    trim (dropEndWhile p s) = trim s := by
  have dropped : ∀ c ∈ (s.reverse.takeWhile p).reverse, isBlank c = true := fun c mem =>
    blank c (List.mem_takeWhile_imp (List.mem_reverse.mp mem))
  rw [← trim_append_of_blank _ dropped, dropEndWhile_append_takeWhile]

theorem trim_eq_nil_iff {s : List Char} : trim s = [] ↔ ∀ c ∈ s, isBlank c = true := by
  rw [trim, dropEndWhile, List.reverse_eq_nil_iff, List.dropWhile_eq_nil_iff]
  constructor
  · intro rest
    have none : s.dropWhile isBlank = [] := by
      cases dropped : s.dropWhile isBlank with
      | nil => rfl
      | cons c t =>
        have stop := List.head?_dropWhile_not isBlank s
        rw [dropped] at stop rest
        have blank := rest c (List.mem_reverse.mpr (List.mem_cons_self ..))
        simp [blank] at stop
    exact List.dropWhile_eq_nil_iff.mp none
  · intro blank c mem
    exact blank c ((List.dropWhile_suffix _).subset (List.mem_reverse.mp mem))

theorem trim_eq_self {s : List Char} (first : ∀ c ∈ s.head?, isBlank c = false)
    (last : ∀ c ∈ s.getLast?, isBlank c = false) : trim s = s := by
  have front : s.dropWhile isBlank = s := by
    cases s with
    | nil => rfl
    | cons c s => rw [List.dropWhile_cons, first c rfl, if_neg Bool.false_ne_true]
  rw [trim, front]
  apply List.rdropWhile_eq_self_iff.mpr
  intro nonempty
  rw [last _ (List.getLast?_eq_some_getLast nonempty)]
  exact Bool.false_ne_true

/-- `core` is what remains of a text without the blanks at its two ends. -/
structure Trims (text core : List Char) : Prop where
  split : ∃ before after, text = before ++ core ++ after ∧ (∀ c ∈ before, isBlank c = true) ∧
    ∀ c ∈ after, isBlank c = true
  first : ∀ c ∈ core.head?, isBlank c = false
  last : ∀ c ∈ core.getLast?, isBlank c = false

theorem trims_trim (text : List Char) : Trims text (trim text) where
  split := by
    refine ⟨text.takeWhile isBlank, ((text.dropWhile isBlank).reverse.takeWhile isBlank).reverse, ?_,
      fun c => List.mem_takeWhile_imp, fun c mem => List.mem_takeWhile_imp (List.mem_reverse.mp mem)⟩
    rw [List.append_assoc, trim, dropEndWhile_append_takeWhile, List.takeWhile_append_dropWhile]
  first := by
    intro c head
    -- the ending that is dropped leaves the first character, unless it leaves nothing
    have starts : c ∈ (text.dropWhile isBlank).head? := by
      rw [← dropEndWhile_append_takeWhile (p := isBlank) (text.dropWhile isBlank), ← trim,
        List.head?_append, Option.mem_def.mp head]
      rfl
    have stops := List.head?_dropWhile_not isBlank text
    rw [Option.mem_def.mp starts] at stops
    simpa using stops
  last := by
    intro c ends
    obtain ⟨nonempty, rfl⟩ := List.mem_getLast?_eq_getLast ends
    exact Bool.eq_false_iff.mpr (List.rdropWhile_last_not isBlank _ nonempty)

theorem trim_trim (text : List Char) : trim (trim text) = trim text :=
  trim_eq_self (trims_trim text).first (trims_trim text).last

theorem trim_of_dark {s : List Char} (dark : ∀ c ∈ s, isBlank c = false) : trim s = s :=
  trim_eq_self (fun c head => dark c (List.mem_of_mem_head? head))
    fun c last => dark c (List.mem_of_getLast? last)

theorem trimmed_ne_empty {text : String} {c : Char} (mem : c ∈ text.toList)
    (dark : isBlank c = false) : trimmed text ≠ "" := by
  intro empty
  have none : trim text.toList = [] := by rw [← toList_trimmed, empty, String.toList_empty]
  have blank := trim_eq_nil_iff.mp none c mem
  rw [dark] at blank
  cases blank

theorem isBlank_of_isDigit {c : Char} (digit : c.isDigit = true) : isBlank c = false := by
  have range : 48 ≤ c.toNat ∧ c.toNat ≤ 57 := Char.isDigit_iff_toNat.mp digit
  simp [isBlank]
  omega

theorem dark_toDigits (n : Nat) : ∀ c ∈ Nat.toDigits 10 n, isBlank c = false := fun _ mem =>
  isBlank_of_isDigit (Nat.isDigit_of_mem_toDigits (by decide) (by decide) mem)

theorem toList_toString (n : Nat) : (toString n).toList = Nat.toDigits 10 n := by simp

theorem dark_toString (n : Nat) : ∀ c ∈ (toString n).toList, isBlank c = false := by
  rw [toList_toString]
  exact dark_toDigits n

theorem dark_toString_int (n : Int) : ∀ c ∈ (toString n).toList, isBlank c = false := by
  cases n with
  | ofNat n => exact dark_toString n
  | negSucc n =>
    have text : (toString (Int.negSucc n)).toList = '-' :: Nat.toDigits 10 (n + 1) := by
      simp [toString, Int.repr]
    rw [text, List.forall_mem_cons]
    exact ⟨by decide, dark_toDigits (n + 1)⟩

theorem exists_span (p : Char → Bool) (text : List Char) :
    ∃ front rest, text = front ++ rest ∧ (∀ c ∈ front, p c = true) ∧
      ∀ c ∈ rest.head?, p c = false := by
  refine ⟨text.takeWhile p, text.dropWhile p, List.takeWhile_append_dropWhile.symm,
    fun c mem => List.mem_takeWhile_imp mem, ?_⟩
  intro c head
  have stops := List.head?_dropWhile_not p text
  rw [Option.mem_def.mp head] at stops
  simpa using stops

end BackupConsole.Text
