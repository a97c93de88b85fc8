set_option autoImplicit false

namespace BackupConsole.Toml

def isSpace (c : Char) : Bool := c == ' ' || c == '\t'

/-- A character that may stand in comments and quoted texts: no control character but the tab. -/
def isPlain (c : Char) : Bool := c == '\t' || (32 ≤ c.toNat && c.toNat != 127)

def isNameChar (c : Char) : Bool := c.isAlphanum || c == '_' || c == '-'

def skipSpaces (s : List Char) : List Char := s.dropWhile isSpace

def newline? : List Char → Option (List Char)
  | '\n' :: rest => some rest
  | '\r' :: '\n' :: rest => some rest
  | _ => none

def skipComment : List Char → List Char
  | '#' :: rest => rest.dropWhile isPlain
  | s => s

def lineEnd? (s : List Char) : Option (List Char) :=
  match skipComment (skipSpaces s) with
  | [] => some []
  | rest => newline? rest

theorem length_dropWhile_le {α : Type} (p : α → Bool) (s : List α) :
    (s.dropWhile p).length ≤ s.length :=
  (List.dropWhile_suffix p).length_le

theorem length_lt_of_newline? {s rest : List Char} (h : newline? s = some rest) :
    rest.length < s.length := by
  unfold newline? at h
  split at h
  · cases h
    exact Nat.lt_succ_self _
  · cases h
    exact Nat.lt_succ_of_lt (Nat.lt_succ_self _)
  · cases h

def skipBlankLines (s : List Char) : List Char :=
  match _ : newline? (skipSpaces s) with
  | some rest => skipBlankLines rest
  | none => skipSpaces s
termination_by s.length
decreasing_by
  have shorter := length_lt_of_newline? ‹_›
  have dropped := length_dropWhile_le isSpace s
  simp only [skipSpaces] at shorter
  omega

def skipGaps (s : List Char) : List Char :=
  match _ : newline? (skipComment (skipSpaces s)) with
  | some rest => skipGaps rest
  | none => skipComment (skipSpaces s)
termination_by s.length
decreasing_by
  have shorter := length_lt_of_newline? ‹_›
  have dropped := length_dropWhile_le isSpace s
  have comment : (skipComment (skipSpaces s)).length ≤ (skipSpaces s).length := by
    unfold skipComment
    split
    · next rest first =>
      have := length_dropWhile_le isPlain rest
      rw [first]
      simp only [List.length_cons]
      omega
    · exact Nat.le_refl _
  simp only [skipSpaces] at shorter comment
  omega

theorem length_skipBlankLines_le (s : List Char) : (skipBlankLines s).length ≤ s.length := by
  fun_induction skipBlankLines s with
  | case1 s rest h ih =>
    have shorter := length_lt_of_newline? h
    have dropped := length_dropWhile_le isSpace s
    simp only [skipSpaces] at shorter
    omega
  | case2 s h => exact length_dropWhile_le isSpace s

end BackupConsole.Toml
