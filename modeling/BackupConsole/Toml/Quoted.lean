import BackupConsole.Text.Hex
import BackupConsole.Toml.Space

set_option autoImplicit false

namespace BackupConsole.Toml

open Text

def hexNumber? (digits : List Char) : Option Nat :=
  digits.foldl (fun n c => n.bind fun n => (hexValue? c).map (16 * n + ·)) (some 0)

def codePoint? (count : Nat) (s : List Char) : Option Char :=
  let digits := s.take count
  if digits.length < count then none
  else (hexNumber? digits).bind fun n => if n.isValidChar then some (Char.ofNat n) else none

/-- The character of an escape after its backslash, and the number of characters it takes. -/
def escape? : List Char → Option (Char × Nat)
  | [] => none
  | c :: rest =>
    match c with
    | 'b' => some ('\x08', 1)
    | 't' => some ('\t', 1)
    | 'n' => some ('\n', 1)
    | 'f' => some ('\x0c', 1)
    | 'r' => some ('\r', 1)
    | '\x22' => some ('\x22', 1)
    | '\\' => some ('\\', 1)
    | 'u' => (codePoint? 4 rest).map (·, 5)
    | 'U' => (codePoint? 8 rest).map (·, 9)
    | _ => none

def escapedText (s : List Char) : Option (List Char × List Char) :=
  match s with
  | [] => none
  | c :: rest =>
    if c = '\x22' then some ([], rest)
    else if c = '\\' then
      (escape? rest).bind fun (x, count) =>
        (escapedText (rest.drop count)).map fun (text, after) => (x :: text, after)
    else if isPlain c then (escapedText rest).map fun (text, after) => (c :: text, after)
    else none
termination_by s.length
decreasing_by all_goals simp only [List.length_drop, List.length_cons]; omega

def literalText : List Char → Option (List Char × List Char)
  | [] => none
  | c :: rest =>
    if c = '\x27' then some ([], rest)
    else if isPlain c then (literalText rest).map fun (text, after) => (c :: text, after)
    else none

/-- The quotes of a closing run that belong to the text, and what follows the run; none if the run
is too short to close the text. -/
def closingRun? (mark : Char) (s : List Char) : Option (List Char × List Char) :=
  let run := (s.takeWhile (· == mark)).length
  if run < 3 then none
  else
    let kept := min (run - 3) 2
    some (List.replicate kept mark, s.drop (kept + 3))

def joinedLine? (s : List Char) : Option (List Char) :=
  (newline? (skipSpaces s)).map skipBlankLines

theorem length_joinedLine?_lt {s rest : List Char} (h : joinedLine? s = some rest) :
    rest.length < s.length := by
  obtain ⟨after, line, rfl⟩ := Option.map_eq_some_iff.mp h
  have shorter := length_lt_of_newline? line
  have dropped := length_dropWhile_le isSpace s
  have blank := length_skipBlankLines_le after
  simp only [skipSpaces] at shorter
  omega

def escapedLines (s : List Char) : Option (List Char × List Char) :=
  match s with
  | [] => none
  | c :: rest =>
    if c = '\x22' then
      match closingRun? c (c :: rest) with
      | some closed => some closed
      | none => (escapedLines rest).map fun (text, after) => (c :: text, after)
    else if c = '\\' then
      match _ : joinedLine? rest with
      | some next => escapedLines next
      | none =>
        (escape? rest).bind fun (x, count) =>
          (escapedLines (rest.drop count)).map fun (text, after) => (x :: text, after)
    else if isPlain c then (escapedLines rest).map fun (text, after) => (c :: text, after)
    else
      match _ : newline? (c :: rest) with
      | some next => (escapedLines next).map fun (text, after) => ('\n' :: text, after)
      | none => none
termination_by s.length
decreasing_by
  · simp
  · have := length_joinedLine?_lt ‹_›
    simp only [List.length_cons]
    omega
  · simp only [List.length_drop, List.length_cons]
    omega
  · simp
  · exact length_lt_of_newline? ‹_›

def literalLines (s : List Char) : Option (List Char × List Char) :=
  match s with
  | [] => none
  | c :: rest =>
    if c = '\x27' then
      match closingRun? c (c :: rest) with
      | some closed => some closed
      | none => (literalLines rest).map fun (text, after) => (c :: text, after)
    else if isPlain c then (literalLines rest).map fun (text, after) => (c :: text, after)
    else
      match _ : newline? (c :: rest) with
      | some next => (literalLines next).map fun (text, after) => ('\n' :: text, after)
      | none => none
termination_by s.length
decreasing_by
  · simp
  · simp
  · exact length_lt_of_newline? ‹_›

def dropFirstNewline (s : List Char) : List Char := (newline? s).getD s

def quotedText : List Char → Option (List Char × List Char)
  | '\x22' :: '\x22' :: '\x22' :: rest => escapedLines (dropFirstNewline rest)
  | '\x27' :: '\x27' :: '\x27' :: rest => literalLines (dropFirstNewline rest)
  | '\x22' :: rest => escapedText rest
  | '\x27' :: rest => literalText rest
  | _ => none

end BackupConsole.Toml
