import BackupConsole.Proofs.Wire.Grammar

set_option autoImplicit false

namespace BackupConsole.Wire

open Text

def spaced (parts : List String) : String := " ".intercalate parts

theorem exists_after (part : String) (parts : List String) :
    ∃ lead, (∀ c ∈ lead, isBlank c = true) ∧ Ends (lead ++ (spaced parts).toList) ∧
      (spaced (part :: parts)).toList = part.toList ++ (lead ++ (spaced parts).toList) := by
  cases parts with
  | nil => exact ⟨[], by simp, by simp [spaced, Ends], by simp [spaced]⟩
  | cons next parts =>
    exact ⟨[' '], List.forall_mem_singleton.mpr rfl, by simp [Ends, isBlank], by simp [spaced, String.toList_intercalate]⟩

theorem head?_spaced {part : String} {c : Char} (starts : part.toList.head? = some c)
    (parts : List String) : (spaced (part :: parts)).toList.head? = some c := by
  obtain ⟨lead, _, _, row⟩ := exists_after part parts
  rw [row, List.head?_append, starts]
  rfl

theorem getLast?_spaced {part : String} {c : Char} (ends : part.toList.getLast? = some c)
    (parts : List String) : (spaced (parts ++ [part])).toList.getLast? = some c := by
  induction parts with
  | nil => exact ends
  | cons first parts ih =>
    obtain ⟨lead, _, _, row⟩ := exists_after first (parts ++ [part])
    rw [List.cons_append, row, List.getLast?_append, List.getLast?_append, ih]
    rfl

theorem trimmed_spaced {parts : List String}
    (starts : ∀ part ∈ parts.head?, ∃ c, part.toList.head? = some c ∧ isBlank c = false)
    (ends : ∀ part ∈ parts.getLast?, ∃ c, part.toList.getLast? = some c ∧ isBlank c = false) :
    trimmed (spaced parts) = spaced parts := by
  cases parts with
  | nil => rfl
  | cons first others =>
    obtain ⟨init, last, split⟩ := (List.eq_nil_or_concat' (first :: others)).resolve_left (by simp)
    obtain ⟨c, starts, visible⟩ := starts first rfl
    rw [split, List.getLast?_concat] at ends
    obtain ⟨d, ends, dark⟩ := ends last rfl
    have start := head?_spaced starts others
    have finish := getLast?_spaced ends init
    rw [← split] at finish
    rw [trimmed, trim_eq_self, String.ofList_toList]
    · rw [start]
      exact fun c' same => Option.some.inj same ▸ visible
    · rw [finish]
      exact fun c' same => Option.some.inj same ▸ dark

/-- In front of a blank or the end of the text, a field is read from this part but for what is lost. -/
def WrittenAs (part : String) (lost : List Char) (field : String × String) : Prop :=
  ∀ rest, Ends rest → ∃ text, part.toList = text ++ lost ∧ IsField (lost ++ rest) text field

theorem spelled_spaced {write : String × String → String} {lost : String × String → List Char}
    {shown : String × String → String × String} (lead : List Char)
    (blank : ∀ c ∈ lead, isBlank c = true) {fields : List (String × String)}
    (written : ∀ field ∈ fields, WrittenAs (write field) (lost field) (shown field))
    (readable : ∀ field ∈ fields, ∀ c ∈ lost field, isBlank c = true) :
    Spelled (lead ++ (spaced (fields.map write)).toList) (fields.map shown) := by
  induction fields generalizing lead with
  | nil => exact .blank (by simpa [spaced] using blank)
  | cons field fields ih =>
    obtain ⟨first, written⟩ := List.forall_mem_cons.mp written
    obtain ⟨trail, readable⟩ := List.forall_mem_cons.mp readable
    obtain ⟨between, space, ends, row⟩ := exists_after (write field) (fields.map write)
    obtain ⟨text, whole, isField⟩ := first _ ends
    -- what is lost of this field stands in front of the next, as blanks before it
    have more := ih (lost field ++ between)
      (List.forall_mem_append.mpr ⟨trail, space⟩) written readable
    rw [List.append_assoc] at more
    rw [List.map_cons, row, whole, List.append_assoc text, List.map_cons]
    exact .field blank isField more

end BackupConsole.Wire
