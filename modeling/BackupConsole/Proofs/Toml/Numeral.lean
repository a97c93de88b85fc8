import BackupConsole.Toml.Moment
import BackupConsole.Toml.Numeral

set_option autoImplicit false

namespace BackupConsole.Toml

open Number Config

theorem ne_of_class {p : Char → Bool} {c d : Char} (here : p c = true)
    (other : p d = false) : c ≠ d :=
  fun same => Bool.false_ne_true (other.symm.trans (same ▸ here))

theorem not_isPrefixOf_of_class {p : Char → Bool} {c d : Char} (here : p c = true)
    (other : p d = false) (word s : List Char) : ¬ (d :: word).isPrefixOf (c :: s) = true := by
  rw [List.isPrefixOf, beq_eq_false_iff_ne.mpr (ne_of_class here other).symm, Bool.false_and]
  exact Bool.false_ne_true

theorem exists_toDigits (n : Nat) : ∃ c digits, Nat.toDigits 10 n = c :: digits ∧
    (∀ d ∈ c :: digits, d.isDigit = true) ∧ (c = '0' → digits = []) := by
  have all (m : Nat) : ∀ d ∈ Nat.toDigits 10 m, d.isDigit = true :=
    fun _ mem => Nat.isDigit_of_mem_toDigits (by decide) (by decide) mem
  induction n using Nat.strongRecOn with
  | ind n ih =>
    by_cases single : n < 10
    · have written : Nat.toDigits 10 n = [n.digitChar] := Nat.toDigits_of_lt_base single
      exact ⟨n.digitChar, [], written, written ▸ all n, fun _ => rfl⟩
    · obtain ⟨c, digits, front, _, zero⟩ := ih (n / 10) (by omega)
      have written : Nat.toDigits 10 n = c :: (digits ++ [(n % 10).digitChar]) := by
        rw [Nat.toDigits_of_base_le (by decide) (by omega), front, List.cons_append]
      refine ⟨c, _, written, written ▸ all n, fun first => ?_⟩
      have value := Nat.ofDigitChars_ten_toDigits (n := n / 10)
      rw [front, first, zero first] at value
      have positive : 0 < n / 10 := by omega
      exact absurd value (Nat.ne_of_lt positive)

/-! ## No date and no time -/

def DigitLine (s : List Char) : Prop :=
  ∃ digits rest, s = digits ++ '\n' :: rest ∧ ∀ c ∈ digits, c.isDigit = true

namespace DigitLine

variable {s : List Char} (line : DigitLine s)

include line

theorem after? {c : Char} (other : c.isDigit = false) (line_end : c ≠ '\n') :
    after? c s = none := by
  obtain ⟨digits, rest, rfl, all⟩ := line
  cases digits with
  | nil => exact if_neg (Ne.symm line_end)
  | cons d digits => exact if_neg (ne_of_class (all d List.mem_cons_self) other)

theorem of_fixedNumber? {count n : Nat} {after : List Char}
    (read : fixedNumber? count s = some (n, after)) : DigitLine after := by
  obtain ⟨digits, rest, rfl, all⟩ := line
  unfold fixedNumber? at read
  dsimp only at read
  split at read
  · cases read
  · obtain ⟨value, number, same⟩ := Option.map_eq_some_iff.mp read
    cases same
    have numeric : ∀ c ∈ (digits ++ '\n' :: rest).take count, c.isDigit = true := by
      unfold readDigits at number
      split at number
      · cases number
      · next wrong =>
        rw [Bool.or_eq_true, not_or] at wrong
        simpa using wrong.2
    have inside : count ≤ digits.length := by
      refine Nat.le_of_not_lt fun beyond => absurd (numeric '\n' ?_) (by decide)
      refine List.mem_take_iff_getElem.mpr ⟨digits.length, ?_, by simp⟩
      simp only [List.length_append, List.length_cons]
      omega
    refine ⟨digits.drop count, rest, List.drop_append_of_le_length inside, ?_⟩
    exact fun c mem => all c (List.mem_of_mem_drop mem)

theorem afterDate? : afterDate? s = none := by
  unfold Toml.afterDate?
  cases year : fixedNumber? 4 s with
  | none => rfl
  | some read =>
    have next := (line.of_fixedNumber? year).after? (c := '-') (by decide) (by decide)
    simp only [Option.bind_eq_bind, Option.bind_some, next, Option.bind_none]

theorem afterTime? : afterTime? s = none := by
  unfold Toml.afterTime? afterHourMinute?
  cases hour : twoDigits? 0 23 s with
  | none => rfl
  | some read =>
    have number := Option.eq_some_of_filter_eq_some hour
    have next := (line.of_fixedNumber? number).after? (c := ':') (by decide) (by decide)
    simp only [Option.bind_eq_bind, Option.bind_some, next, Option.bind_none]

theorem moment? : moment? s = none := by
  rw [Toml.moment?, line.afterDate?, line.afterTime?]
  rfl

end DigitLine

/-! ## Whole numbers -/

theorem sign_of_isDigit {c : Char} (digit : c.isDigit = true) (s : List Char) :
    sign (c :: s) = ([], c :: s) := by
  unfold sign
  split
  · next same => exact absurd (List.cons.inj same).1 (ne_of_class digit (by decide))
  · next same => exact absurd (List.cons.inj same).1 (ne_of_class digit (by decide))
  · rfl

theorem moreDigits_line {digits : List Char} (all : ∀ c ∈ digits, c.isDigit = true)
    (rest : List Char) :
    moreDigits Char.isDigit (digits ++ '\n' :: rest) = (digits, '\n' :: rest) := by
  induction digits with
  | nil => cases rest <;> rfl
  | cons c digits ih =>
    obtain ⟨first, others⟩ := List.forall_mem_cons.mp all
    obtain ⟨d, more, tail⟩ : ∃ d more, digits ++ '\n' :: rest = d :: more := by
      cases digits <;> exact ⟨_, _, rfl⟩
    have read := ih others
    rw [tail] at read
    rw [List.cons_append, tail, moreDigits, if_pos first, read]

theorem wholePart?_toDigits (n : Nat) (rest : List Char) :
    wholePart? (Nat.toDigits 10 n ++ '\n' :: rest) = some (Nat.toDigits 10 n, '\n' :: rest) := by
  obtain ⟨c, digits, written, all, zero⟩ := exists_toDigits n
  obtain ⟨first, others⟩ := List.forall_mem_cons.mp all
  rw [written, List.cons_append, wholePart?, sign_of_isDigit first]
  dsimp only
  split
  · next after same =>
    obtain ⟨zeroed, rfl⟩ := List.cons.inj same
    rw [zero zeroed, zeroed]
    rfl
  · rw [digits?, if_pos first, moreDigits_line others]
    rfl

theorem decimal?_toDigits (n : Nat) (rest : List Char) :
    decimal? (Nat.toDigits 10 n ++ '\n' :: rest) = none := by
  have whole : fractionalPart? ('\n' :: rest) = none := rfl
  rw [decimal?, wholePart?_toDigits, Option.bind_some]
  dsimp only
  rw [whole, Option.bind_none]

theorem namedNumber?_of_isDigit {c : Char} (digit : c.isDigit = true) (s : List Char) :
    namedNumber? (c :: s) = none := by
  rw [namedNumber?, sign_of_isDigit digit]
  refine if_neg fun named => ?_
  rw [Bool.or_eq_true, decide_eq_true_eq, decide_eq_true_eq] at named
  obtain infinite | undefined := named
  · exact ne_of_class digit (by decide) (List.cons.inj infinite).1
  · exact ne_of_class digit (by decide) (List.cons.inj undefined).1

theorem readInt64_toDigits {n : Nat} (inside : n < Nat.pow 2 63) :
    readInt64 (Nat.toDigits 10 n) = some (Int64.ofNat n) := by
  have value : (Int64.ofNat n).toInt = n := Int64.toInt_ofNat_of_lt inside
  have read := readInt64_toString (Int64.ofNat n)
  rw [value] at read
  have text : (toString (n : Int)).toList = Nat.toDigits 10 n := by
    simp [toString, Int.repr]
  rw [← text, read]

theorem integer?_toDigits {n : Nat} (inside : n < Nat.pow 2 63) (rest : List Char) :
    integer? (Nat.toDigits 10 n ++ '\n' :: rest) =
      some (.signed (Int64.ofNat n), '\n' :: rest) := by
  have whole := wholePart?_toDigits n rest
  obtain ⟨c, digits, written, _, zero⟩ := exists_toDigits n
  have unmarked {d : Char} {after : List Char} (mark : d ≠ '\n') :
      Nat.toDigits 10 n ++ '\n' :: rest ≠ '0' :: d :: after := by
    intro same
    rw [written, List.cons_append] at same
    obtain ⟨first, second⟩ := List.cons.inj same
    rw [zero first] at second
    exact mark (List.cons.inj second).1.symm
  unfold integer?
  split
  · next same => exact absurd same (unmarked (by decide))
  · next same => exact absurd same (unmarked (by decide))
  · next same => exact absurd same (unmarked (by decide))
  · rw [whole, Option.bind_some]
    dsimp only
    rw [readInt64_toDigits inside, Option.map_some]

theorem number?_toDigits {n : Nat} (inside : n < Nat.pow 2 63) (rest : List Char) :
    number? (Nat.toDigits 10 n ++ '\n' :: rest) =
      some (.signed (Int64.ofNat n), '\n' :: rest) := by
  have unnamed : namedNumber? (Nat.toDigits 10 n ++ '\n' :: rest) = none := by
    obtain ⟨c, digits, written, all, _⟩ := exists_toDigits n
    rw [written]
    exact namedNumber?_of_isDigit (all c List.mem_cons_self) _
  rw [number?, decimal?_toDigits, unnamed, integer?_toDigits inside]
  rfl

end BackupConsole.Toml
