import BackupConsole.Proofs.Text.Hexadecimal
import BackupConsole.Toml.Printed
import BackupConsole.Toml.Quoted

/-!
# Texts of a settings file are read as they were written

Every text has a written form, and what follows it does not matter as long as it does not start with
a quote. Between double quotes each character stands for itself or is an escape that is read as it.
Between three quotes at most two of them stand in a row without an escape, so the first run of three
to five is the one that closes the text.
-/

set_option autoImplicit false

namespace BackupConsole.Toml

open Text

/-! ## Escapes -/

theorem hexValue?_toUpper {n : Nat} (digit : n < 16) : hexValue? (hexDigit n).toUpper = some n :=
  (by decide : ∀ n : Fin 16, hexValue? (hexDigit n).toUpper = some n.val) ⟨n, digit⟩

theorem codePoint?_hexByte (b : UInt8) (rest : List Char) :
    codePoint? 4 ('0' :: '0' :: upper (hexByte b) ++ rest) = some (Char.ofNat b.toNat) := by
  have high : b.toNat / 16 < 16 := Nat.div_lt_of_lt_mul b.toNat_lt
  have low : b.toNat % 16 < 16 := Nat.mod_lt _ (by decide)
  have zero : hexValue? '0' = some 0 := by decide
  have number : hexNumber? ('0' :: '0' :: upper (hexByte b)) = some b.toNat := by
    simp [hexNumber?, upper, hexByte, zero, hexValue?_toUpper high, hexValue?_toUpper low,
      Nat.div_add_mod]
  have valid : b.toNat.isValidChar := .inl (Nat.lt_trans b.toNat_lt (by decide))
  have first : ('0' :: '0' :: upper (hexByte b) ++ rest).take 4 =
      '0' :: '0' :: upper (hexByte b) := rfl
  rw [codePoint?, first, number]
  exact if_pos valid

structure EscapeFor (c : Char) (code : List Char) : Prop where
  read : ∀ rest, escape? (code ++ rest) = some (c, code.length)
  onLine : ∀ rest, joinedLine? (code ++ rest) = none

structure Bare (lines : Bool) (c : Char) : Prop where
  ne_quote : c ≠ '\x22'
  ne_backslash : c ≠ '\\'
  plain : isPlain c = true ∨ lines = true ∧ c = '\n'

theorem escapeFor_control {c : Char} (control : isPlain c = false) :
    EscapeFor c ('u' :: '0' :: '0' :: upper (hexByte (UInt8.ofNat c.toNat))) := by
  have small : c.toNat < 256 := by
    simp only [isPlain, Bool.or_eq_false_iff, Bool.and_eq_false_iff, decide_eq_false_iff_not,
      bne_eq_false_iff_eq] at control
    omega
  have same : Char.ofNat (UInt8.ofNat c.toNat).toNat = c := by
    rw [UInt8.toNat_ofNat_of_lt' small, Char.ofNat_toNat]
  refine ⟨fun rest => ?_, fun rest => rfl⟩
  have code := codePoint?_hexByte (UInt8.ofNat c.toNat) rest
  rw [same] at code
  exact congrArg (Option.map (·, 5)) code

theorem escapedChar_cases (lines : Bool) (c : Char) :
    (escapedChar lines c = [c] ∧ Bare lines c) ∨
      ∃ code, escapedChar lines c = '\\' :: code ∧ EscapeFor c code := by
  unfold escapedChar
  split
  · exact .inr ⟨_, rfl, fun _ => rfl, fun _ => rfl⟩
  · exact .inr ⟨_, rfl, fun _ => rfl, fun _ => rfl⟩
  · cases lines with
    | true => exact .inl ⟨rfl, by decide, by decide, .inr ⟨rfl, rfl⟩⟩
    | false => exact .inr ⟨_, rfl, fun _ => rfl, fun _ => rfl⟩
  · exact .inr ⟨_, rfl, fun _ => rfl, fun _ => rfl⟩
  · exact .inr ⟨_, rfl, fun _ => rfl, fun _ => rfl⟩
  · exact .inr ⟨_, rfl, fun _ => rfl, fun _ => rfl⟩
  · exact .inr ⟨_, rfl, fun _ => rfl, fun _ => rfl⟩
  · next _ _ _ _ _ _ ne_quote ne_backslash =>
    cases plain : isPlain c with
    | true => exact .inl ⟨if_pos rfl, ne_quote, ne_backslash, .inl plain⟩
    | false => exact .inr ⟨_, if_neg Bool.false_ne_true, escapeFor_control plain⟩

theorem escapedText_escapedChar (c : Char) (s : List Char) :
    escapedText (escapedChar false c ++ s) =
      (escapedText s).map fun (text, after) => (c :: text, after) := by
  obtain ⟨self, bare⟩ | ⟨code, escape, read, _⟩ := escapedChar_cases false c
  · have plain : isPlain c = true := bare.plain.resolve_right fun line => Bool.false_ne_true line.1
    rw [self, List.singleton_append, escapedText, if_neg bare.ne_quote, if_neg bare.ne_backslash,
      if_pos plain]
  · rw [escape, List.cons_append, escapedText, if_neg (by decide), if_pos rfl, read,
      Option.bind_some]
    dsimp only
    rw [List.drop_left]

theorem escapedText_flatMap (s rest : List Char) :
    escapedText (s.flatMap (escapedChar false) ++ '\x22' :: rest) = some (s, rest) := by
  induction s with
  | nil => rw [List.flatMap_nil, List.nil_append, escapedText, if_pos rfl]
  | cons c s ih =>
    rw [List.flatMap_cons, List.append_assoc, escapedText_escapedChar, ih, Option.map_some]

theorem literalText_append {s : List Char} (plain : ∀ c ∈ s, isPlain c = true)
    (unmarked : '\x27' ∉ s) (rest : List Char) :
    literalText (s ++ '\x27' :: rest) = some (s, rest) := by
  induction s with
  | nil => rfl
  | cons c s ih =>
    obtain ⟨first, others⟩ := List.forall_mem_cons.mp plain
    have mark : c ≠ '\x27' := fun same => unmarked (same ▸ List.mem_cons_self)
    have unmarked : '\x27' ∉ s := fun mem => unmarked (List.mem_cons_of_mem c mem)
    rw [List.cons_append, literalText, if_neg mark, if_pos first, ih others unmarked,
      Option.map_some]

/-! ## Three quotes in a row -/

section Marks

variable {mark : Char} {count : Nat} {s : List Char}

theorem length_run (ends : s.head? ≠ some mark) :
    ((List.replicate count mark ++ s).takeWhile (· == mark)).length = count := by
  have none_more : s.takeWhile (· == mark) = [] := by
    cases s with
    | nil => rfl
    | cons c s => exact List.takeWhile_cons_of_neg fun same => ends (congrArg some (eq_of_beq same))
  rw [List.takeWhile_append_of_pos fun c mem => by simp [List.eq_of_mem_replicate mem], none_more,
    List.append_nil, List.length_replicate]

theorem closingRun?_of_short (short : count < 3) (ends : s.head? ≠ some mark) :
    closingRun? mark (List.replicate count mark ++ s) = none := by
  rw [closingRun?, length_run ends]
  exact if_pos short

theorem closingRun?_closing (few : count ≤ 2) (ends : s.head? ≠ some mark) :
    closingRun? mark (List.replicate (count + 3) mark ++ s) =
      some (List.replicate count mark, s) := by
  have kept : min (count + 3 - 3) 2 = count := by omega
  rw [closingRun?, length_run ends]
  dsimp only
  rw [if_neg (by omega), kept, List.drop_left' List.length_replicate]

/-- A reader takes a mark as closing the text if enough of them follow, and else as a part of it. -/
def ClosedBy (mark : Char) (read : List Char → Option (List Char × List Char)) : Prop :=
  ∀ s, read (mark :: s) =
    match closingRun? mark (mark :: s) with
    | some closed => some closed
    | none => (read s).map fun (text, after) => (mark :: text, after)

variable {read : List Char → Option (List Char × List Char)} (closed : ClosedBy mark read)

include closed

theorem read_marks (few : count ≤ 2) (ends : s.head? ≠ some mark) :
    read (List.replicate count mark ++ s) =
      (read s).map fun (text, after) => (List.replicate count mark ++ text, after) := by
  induction count with
  | zero => simp
  | succ count ih =>
    have short := closingRun?_of_short (Nat.lt_succ_of_le few) ends
    rw [List.replicate_succ, List.cons_append] at short ⊢
    rw [closed, short]
    dsimp only
    rw [ih (Nat.le_of_succ_le few), Option.map_map]
    rfl

theorem read_closing (few : count ≤ 2) (ends : s.head? ≠ some mark) :
    read (List.replicate count mark ++ (List.replicate 3 mark ++ s)) =
      some (List.replicate count mark, s) := by
  have closing := closingRun?_closing few ends
  rw [← List.append_assoc, List.replicate_append_replicate]
  rw [List.replicate_succ, List.cons_append] at closing ⊢
  rw [closed, closing]

end Marks

theorem closedBy_escapedLines : ClosedBy '\x22' escapedLines := by
  intro s
  rw [escapedLines]
  exact if_pos rfl

theorem closedBy_literalLines : ClosedBy '\x27' literalLines := by
  intro s
  rw [literalLines]
  exact if_pos rfl

theorem escapedLines_escapedChar (c : Char) (s : List Char) :
    escapedLines (escapedChar true c ++ s) =
      (escapedLines s).map fun (text, after) => (c :: text, after) := by
  obtain ⟨self, bare⟩ | ⟨code, escape, read, onLine⟩ := escapedChar_cases true c
  · rw [self, List.singleton_append, escapedLines, if_neg bare.ne_quote, if_neg bare.ne_backslash]
    obtain plain | ⟨_, rfl⟩ := bare.plain
    · rw [if_pos plain]
    · rfl
  · rw [escape, List.cons_append, escapedLines, if_neg (by decide), if_pos rfl]
    split
    · next next line => cases line.symm.trans (onLine s)
    · rw [read, Option.bind_some]
      dsimp only
      rw [List.drop_left]

theorem head?_escapedChar (lines : Bool) (c : Char) (s : List Char) :
    (escapedChar lines c ++ s).head? ≠ some '\x22' := by
  obtain ⟨self, bare⟩ | ⟨code, escape, _⟩ := escapedChar_cases lines c
  · rw [self]
    exact fun same => bare.ne_quote (Option.some.inj same)
  · rw [escape]
    exact fun same => absurd (Option.some.inj same) (by decide)

/-- The invariant is the run of bare quotes that has just been written: where it ends the text, the
quotes that close the text go on with it. -/
theorem escapedLines_escapedLinesAfter {rest : List Char} (ends : rest.head? ≠ some '\x22')
    (s : List Char) {bare : Nat} (few : bare ≤ 2) :
    escapedLines (List.replicate bare '\x22' ++
        (escapedLinesAfter bare s ++ (List.replicate 3 '\x22' ++ rest))) =
      some (List.replicate bare '\x22' ++ s, rest) := by
  induction s generalizing bare with
  | nil =>
    rw [escapedLinesAfter, List.nil_append, List.append_nil]
    exact read_closing closedBy_escapedLines few ends
  | cons c s ih =>
    rw [escapedLinesAfter]
    split
    · next quote =>
      obtain ⟨rfl, fewer⟩ := quote
      have longer := ih fewer
      rw [List.replicate_succ', List.append_assoc, List.append_assoc] at longer
      exact longer
    · rw [List.append_assoc, read_marks closedBy_escapedLines few (head?_escapedChar true c _),
        escapedLines_escapedChar]
      have others := ih (Nat.zero_le 2)
      rw [List.replicate_zero, List.nil_append, List.nil_append] at others
      rw [others]
      rfl

theorem literalLines_cons {c : Char} (mark : c ≠ '\x27') (plain : isPlain c = true ∨ c = '\n')
    (s : List Char) :
    literalLines (c :: s) = (literalLines s).map fun (text, after) => (c :: text, after) := by
  rw [literalLines, if_neg mark]
  obtain plain | rfl := plain
  · rw [if_pos plain]
  · rfl

theorem hasTriple_of_append {mark : Char} (before : List Char) {s : List Char}
    (none : hasTriple mark (before ++ s) = false) : hasTriple mark s = false := by
  induction before with
  | nil => exact none
  | cons c before ih => exact ih (Bool.or_eq_false_iff.mp none).2

theorem literalLines_append {rest : List Char} (ends : rest.head? ≠ some '\x27') {s : List Char}
    (plain : ∀ c ∈ s, isPlain c = true ∨ c = '\n') {bare : Nat} (few : bare ≤ 2)
    (sparse : hasTriple '\x27' (List.replicate bare '\x27' ++ s) = false) :
    literalLines (List.replicate bare '\x27' ++ (s ++ (List.replicate 3 '\x27' ++ rest))) =
      some (List.replicate bare '\x27' ++ s, rest) := by
  induction s generalizing bare with
  | nil =>
    rw [List.nil_append, List.append_nil]
    exact read_closing closedBy_literalLines few ends
  | cons c s ih =>
    obtain ⟨first, others⟩ := List.forall_mem_cons.mp plain
    by_cases mark : c = '\x27'
    · subst mark
      have fewer : bare + 1 ≤ 2 := by
        refine Nat.lt_of_le_of_ne few fun same => ?_
        subst same
        exact absurd sparse (by simp [hasTriple, List.replicate])
      have shift (x : List Char) : List.replicate (bare + 1) '\x27' ++ x =
          List.replicate bare '\x27' ++ '\x27' :: x := by
        rw [List.replicate_succ', List.append_assoc, List.singleton_append]
      have longer := ih others fewer (by rw [shift]; exact sparse)
      rw [shift, shift] at longer
      exact longer
    · have sparser : hasTriple '\x27' s = false :=
        hasTriple_of_append (List.replicate bare '\x27' ++ [c]) (by simpa using sparse)
      have after := ih others (Nat.zero_le 2) sparser
      rw [List.replicate_zero, List.nil_append, List.nil_append] at after
      have stop : (c :: (s ++ (List.replicate 3 '\x27' ++ rest))).head? ≠ some '\x27' :=
        fun same => mark (Option.some.inj same)
      rw [List.cons_append, read_marks closedBy_literalLines few stop, literalLines_cons mark first,
        after]
      rfl

/-! ## Quotes around a text -/

theorem quotedText_double {body : List Char} (lone : ∀ rest, body ≠ '\x22' :: '\x22' :: rest) :
    quotedText ('\x22' :: body) = escapedText body := by
  unfold quotedText
  split
  · next rest three => exact absurd (List.cons.inj three).2 (lone rest)
  · next three => exact absurd (List.cons.inj three).1 (by decide)
  · next same => rw [(List.cons.inj same).2]
  · next other => exact absurd (List.cons.inj other).1 (by decide)
  · next other _ => exact absurd rfl (other body)

theorem quotedText_single {body : List Char} (lone : ∀ rest, body ≠ '\x27' :: '\x27' :: rest) :
    quotedText ('\x27' :: body) = literalText body := by
  unfold quotedText
  split
  · next three => exact absurd (List.cons.inj three).1 (by decide)
  · next rest three => exact absurd (List.cons.inj three).2 (lone rest)
  · next other => exact absurd (List.cons.inj other).1 (by decide)
  · next same => rw [(List.cons.inj same).2]
  · next other => exact absurd rfl (other body)

theorem lone_flatMap {s rest : List Char} (ends : rest.head? ≠ some '\x22') (after : List Char) :
    s.flatMap (escapedChar false) ++ '\x22' :: rest ≠ '\x22' :: '\x22' :: after := by
  intro three
  cases s with
  | nil => exact ends (by rw [(List.cons.inj three).2, List.head?_cons])
  | cons c s =>
    rw [List.flatMap_cons, List.append_assoc] at three
    exact head?_escapedChar false c _ (by rw [three, List.head?_cons])

theorem lone_literal {s rest : List Char} (unmarked : '\x27' ∉ s) (ends : rest.head? ≠ some '\x27')
    (after : List Char) : s ++ '\x27' :: rest ≠ '\x27' :: '\x27' :: after := by
  intro three
  cases s with
  | nil => exact ends (by rw [(List.cons.inj three).2, List.head?_cons])
  | cons c s => exact unmarked ((List.cons.inj three).1 ▸ List.mem_cons_self)

theorem dropFirstNewline_opened {s body : List Char}
    (first : s.contains '\n' = false → newline? body = none) :
    dropFirstNewline ((if s.contains '\n' then ['\n'] else []) ++ body) = body := by
  cases lines : s.contains '\n' with
  | true => rfl
  | false =>
    rw [if_neg Bool.false_ne_true, List.nil_append, dropFirstNewline, first lines, Option.getD_none]

theorem newline?_of_plain {c : Char} (plain : isPlain c = true) (s : List Char) :
    newline? (c :: s) = none := by
  unfold newline?
  split
  · next same => exact absurd ((List.cons.inj same).1 ▸ plain) (by decide)
  · next same => exact absurd ((List.cons.inj same).1 ▸ plain) (by decide)
  · rfl

theorem newline?_escapedLinesAfter {s : List Char} (line : s.contains '\n' = false)
    (rest : List Char) :
    newline? (escapedLinesAfter 0 s ++ (List.replicate 3 '\x22' ++ rest)) = none := by
  cases s with
  | nil => rfl
  | cons c s =>
    rw [escapedLinesAfter]
    split
    · next quote =>
      rw [quote.1]
      rfl
    · obtain ⟨self, bare⟩ | ⟨code, escape, _⟩ := escapedChar_cases true c
      · rw [self]
        have plain : isPlain c = true := bare.plain.resolve_right fun other => by
          rw [other.2] at line
          exact absurd line (by simp)
        exact newline?_of_plain plain _
      · rw [escape]
        rfl

theorem newline?_literal {s : List Char} (line : s.contains '\n' = false)
    (plain : ∀ c ∈ s, isPlain c = true ∨ c = '\n') (rest : List Char) :
    newline? (s ++ (List.replicate 3 '\x27' ++ rest)) = none := by
  cases s with
  | nil => rfl
  | cons c s =>
    have first : isPlain c = true := (plain c List.mem_cons_self).resolve_right fun other => by
      rw [other] at line
      exact absurd line (by simp)
    exact newline?_of_plain first _

theorem fits_of_quotingOf {s : List Char} {q : Quoting} (chosen : quotingOf s = q)
    (single : q = .single ∨ q = .tripleSingle) : q.fits s = true := by
  unfold quotingOf at chosen
  split at chosen
  · next found =>
    rw [← chosen]
    simpa using List.find?_some found
  · split at chosen <;> simp [← chosen] at single

theorem quotedText_quoted (s rest : List Char) (double : rest.head? ≠ some '\x22')
    (single : rest.head? ≠ some '\x27') : quotedText (quoted s ++ rest) = some (s, rest) := by
  cases chosen : quotingOf s with
  | double =>
    have written : quoted s ++ rest =
        '\x22' :: (s.flatMap (escapedChar false) ++ '\x22' :: rest) := by
      simp [quoted, chosen]
    rw [written, quotedText_double (lone_flatMap double), escapedText_flatMap]
  | single =>
    have written : quoted s ++ rest = '\x27' :: (s ++ '\x27' :: rest) := by simp [quoted, chosen]
    have fits := fits_of_quotingOf chosen (.inl rfl)
    simp only [Quoting.fits, Bool.and_eq_true, Bool.not_eq_true', List.all_eq_true] at fits
    have unmarked : '\x27' ∉ s := by simpa using fits.2
    rw [written, quotedText_single (lone_literal unmarked single),
      literalText_append fits.1 unmarked]
  | tripleDouble =>
    have written : quoted s ++ rest = '\x22' :: '\x22' :: '\x22' ::
        ((if s.contains '\n' then ['\n'] else []) ++
          (escapedLinesAfter 0 s ++ (List.replicate 3 '\x22' ++ rest))) := by
      simp [quoted, chosen, List.replicate]
    rw [written, quotedText,
      dropFirstNewline_opened fun line => newline?_escapedLinesAfter line rest]
    exact escapedLines_escapedLinesAfter double s (Nat.zero_le 2)
  | tripleSingle =>
    have written : quoted s ++ rest = '\x27' :: '\x27' :: '\x27' ::
        ((if s.contains '\n' then ['\n'] else []) ++
          (s ++ (List.replicate 3 '\x27' ++ rest))) := by
      simp [quoted, chosen, List.replicate]
    have fits := fits_of_quotingOf chosen (.inr rfl)
    simp only [Quoting.fits, Bool.and_eq_true, Bool.not_eq_true', List.all_eq_true, Bool.or_eq_true,
      beq_iff_eq] at fits
    rw [written, quotedText, dropFirstNewline_opened fun line => newline?_literal line fits.1 rest]
    exact literalLines_append single fits.1 (Nat.zero_le 2) fits.2

end BackupConsole.Toml
