import BackupConsole.Proofs.Text.Trimming
import BackupConsole.Wire.ResultLine

set_option autoImplicit false

namespace BackupConsole.Wire.ResultLine

open Text Number

def mark (completed : Bool) : Char := if completed then '1' else '0'

def head (l : ResultLine) : List Char :=
  Nat.toDigits 10 l.id.toNat ++ ' ' :: mark l.completed :: ' ' :: Nat.toDigits 10 l.code.toNat

def written? (l : ResultLine) : Option (List Char) :=
  if l.data.isEmpty then none else some l.data.toList

theorem toList_encode (l : ResultLine) :
    l.encode.toList = l.head ++ l.written?.elim [] (' ' :: ·) ++ ['\n'] := by
  unfold encode head mark written?
  by_cases empty : l.data = ""
  · cases l.completed <;> simp [empty]
  · cases l.completed <;> simp [empty]

theorem space_not_mem_toDigits (n : Nat) : ' ' ∉ Nat.toDigits 10 n := fun mem =>
  absurd (Nat.isDigit_of_mem_toDigits (by decide) (by decide) mem) (by decide)

theorem cut_head (l : ResultLine) (rest : List Char) :
    cut ' ' (l.head ++ rest) = (Nat.toDigits 10 l.id.toNat,
      some (mark l.completed :: ' ' :: (Nat.toDigits 10 l.code.toNat ++ rest))) := by
  rw [head, List.append_assoc]
  exact cut_append_cons (space_not_mem_toDigits l.id.toNat) _

theorem cut_mark (completed : Bool) (rest : List Char) :
    cut ' ' (mark completed :: ' ' :: rest) = ([mark completed], some rest) := by
  cases completed <;> rfl

theorem cut_code (n : Nat) (data : Option (List Char)) :
    cut ' ' (Nat.toDigits 10 n ++ data.elim [] (' ' :: ·)) = (Nat.toDigits 10 n, data) := by
  cases data with
  | none =>
    rw [Option.elim_none, List.append_nil]
    exact cut_of_not_mem (space_not_mem_toDigits n)
  | some data => exact cut_append_cons (space_not_mem_toDigits n) data

theorem readCompleted_mark (completed : Bool) : readCompleted [mark completed] = some completed := by
  cases completed <;> rfl

def endsLine (c : Char) : Bool := c = '\r' || c = '\n'

theorem isBlank_of_endsLine (c : Char) (ends : endsLine c = true) : isBlank c = true := by
  simp only [endsLine, Bool.or_eq_true, decide_eq_true_eq] at ends
  rcases ends with rfl | rfl <;> decide

/-- Only the first three spaces separate, whatever the data. -/
theorem read?_of_parts (l : ResultLine) {line : List Char} {data : Option (List Char)}
    (parts : dropEndWhile endsLine line = l.head ++ data.elim [] (' ' :: ·)) :
    read? line = some { l with data := String.ofList (trim (data.getD [])) } := by
  change dropEndWhile (fun c => c = '\r' || c = '\n') line = _ at parts
  simp only [read?, parts, cut_head, cut_mark, cut_code, Option.getD_some, readUInt64_toDigits,
    readCompleted_mark, readUInt32_toDigits]

theorem endsLine_of_isDigit {c : Char} (digit : c.isDigit = true) : endsLine c = false := by
  rw [endsLine, Bool.or_eq_false_iff, decide_eq_false_iff_not, decide_eq_false_iff_not]
  constructor <;>
    · rintro rfl
      exact absurd digit (by decide)

theorem dropEndWhile_head (l : ResultLine) : dropEndWhile endsLine l.head = l.head := by
  apply List.rdropWhile_eq_self_iff.mpr
  intro nonempty
  have last : l.head.getLast nonempty = (Nat.toDigits 10 l.code.toNat).getLast Nat.toDigits_ne_nil := by
    simp [head, Nat.toDigits_ne_nil]
  have digit := Nat.isDigit_of_mem_toDigits (b := 10) (by decide) (by decide)
    (List.getLast_mem (l := Nat.toDigits 10 l.code.toNat) Nat.toDigits_ne_nil)
  rw [last, endsLine_of_isDigit digit]
  exact Bool.false_ne_true

theorem dropEndWhile_encode (l : ResultLine) :
    dropEndWhile endsLine l.encode.toList =
      l.head ++ (l.written?.map (dropEndWhile endsLine)).elim [] (' ' :: ·) := by
  rw [toList_encode, dropEndWhile_append_of_all _ (List.all_eq_true.mp (by decide))]
  cases l.written? with
  | none =>
    rw [Option.map_none, Option.elim_none, List.append_nil]
    exact l.dropEndWhile_head
  | some data => exact dropEndWhile_append_cons (by decide) l.head data

theorem parse_encode (l : ResultLine) : parse l.encode = .ok { l with data := trimmed l.data } := by
  rw [parse, l.read?_of_parts l.dropEndWhile_encode, trimmed, written?]
  by_cases empty : l.data = ""
  · simp [empty]
  · simp [empty, trim_dropEndWhile isBlank_of_endsLine]

/-! ## Reading again -/

theorem trimmed_of_parse {line : String} {l : ResultLine} (read : parse line = .ok l) :
    trimmed l.data = l.data := by
  have trims (text : List Char) : trimmed (String.ofList (trim text)) = String.ofList (trim text) := by
    rw [trimmed, String.toList_ofList, trim_trim]
  unfold parse read? at read
  dsimp only at read
  split at read
  · rename_i found
    cases read
    split at found
    · cases found
      exact trims _
    · cases found
  · cases read

theorem parse_encode_iff (l : ResultLine) : parse l.encode = .ok l ↔ trimmed l.data = l.data := by
  rw [parse_encode]
  constructor
  · exact fun same => congrArg ResultLine.data (Except.ok.inj same)
  · intro trims
    rw [trims]

/-- A line that is written is read as it was but for the blanks at the ends of its data, so as it was
exactly if there are none. A line that has been read is the same when it is written and read again. -/
theorem reread_exact :
    (∀ l : ResultLine, parse l.encode = .ok { l with data := trimmed l.data } ∧
      Trims l.data.toList (trimmed l.data).toList ∧
      (parse l.encode = .ok l ↔ trimmed l.data = l.data)) ∧
    ∀ (line : String) (l : ResultLine), parse line = .ok l → parse l.encode = .ok l := by
  refine ⟨fun l => ⟨l.parse_encode, ?_, l.parse_encode_iff⟩, fun line l read => ?_⟩
  · rw [toList_trimmed]
    exact trims_trim _
  · exact l.parse_encode_iff.mpr (trimmed_of_parse read)

/-- A line with a sign, leading zeros and blanks of many kinds around its data. -/
theorem reread_loose :
    let l : ResultLine := ⟨7, true, 7, "a \t  b"⟩
    parse "+7 1 007 \r \u2003a \t  b\t\u00a0\r\n\n" = .ok l ∧ parse l.encode = .ok l := by
  intro l
  have read : parse "+7 1 007 \r \u2003a \t  b\t\u00a0\r\n\n" = .ok l := by decide +kernel
  exact ⟨read, reread_exact.2 _ l read⟩

end BackupConsole.Wire.ResultLine
