import BackupConsole.Proofs.Wire.ResultLine
import BackupConsole.Proofs.Wire.Row

set_option autoImplicit false

namespace BackupConsole.Wire

open Text

def quotedField (field : String × String) : String := field.1 ++ "=" ++ quote field.2

def quotedRow (fields : List (String × String)) : String := " ".intercalate (fields.map quotedField)

def escaped (value : List Char) : List Char :=
  value.flatMap fun c => if c = '\x27' || c = '\\' then ['\\', c] else [c]

theorem toList_quotedField (field : String × String) :
    (quotedField field).toList =
      field.1.toList ++ '=' :: '\x27' :: (escaped field.2.toList ++ ['\x27']) := by
  simp [quotedField, quote, escaped]

theorem unescapes_escaped (value : List Char) : Unescapes '\x27' (escaped value) value := by
  induction value with
  | nil => exact .nil
  | cons c value ih =>
    rw [escaped, List.flatMap_cons]
    by_cases special : (c = '\x27' || c = '\\') = true
    · rw [if_pos special]
      exact .literal c ih
    · rw [if_neg special]
      simp only [Bool.or_eq_true, decide_eq_true_eq, not_or] at special
      exact .plain special.2 special.1 ih

theorem writtenAs_quotedField {field : String × String} (isKey : IsKey field.1) :
    WrittenAs (quotedField field) [] field := by
  intro rest _
  have isField : IsField rest _ (field.1, String.ofList field.2.toList) :=
    .quoted isKey (by decide : FieldReader.isMark '\x27' = true) (unescapes_escaped field.2.toList)
  rw [String.ofList_toList] at isField
  refine ⟨_, (List.append_nil _).symm, ?_⟩
  rw [toList_quotedField]
  exact isField

theorem spelled_quotedRow {fields : List (String × String)}
    (keys : ∀ field ∈ fields, IsKey field.1) : Spelled (quotedRow fields).toList fields := by
  have written : ∀ field ∈ fields, WrittenAs (quotedField field) [] (id field) :=
    fun field mem => writtenAs_quotedField (keys field mem)
  have spelled := spelled_spaced [] (by simp) written (by simp)
  rw [List.map_id] at spelled
  exact spelled

namespace Fields

theorem parse_quotedRow {fields : List (String × String)} (keys : ∀ field ∈ fields, IsKey field.1) :
    parse (quotedRow fields) = .ok (ofPairs fields) := parse_of_spelled (spelled_quotedRow keys)

end Fields

/-! ## On a line -/

theorem getLast?_quote (v : String) : (quote v).toList.getLast? = some '\x27' := by
  rw [quote, String.toList_ofList, ← List.cons_append, List.getLast?_concat]

theorem head?_of_isKey {key : String} (isKey : IsKey key) (rest : String) :
    ∃ c, (key ++ rest).toList.head? = some c ∧ isBlank c = false := by
  obtain ⟨c, tail, text, _, dark, _⟩ := isKey.exists_cons
  exact ⟨c, by simp [text], dark⟩

theorem trimmed_quotedRow {fields : List (String × String)}
    (keys : ∀ field ∈ fields, IsKey field.1) : trimmed (quotedRow fields) = quotedRow fields := by
  apply trimmed_spaced
  · intro part first
    rw [List.head?_map] at first
    obtain ⟨field, listed, rfl⟩ := Option.map_eq_some_iff.mp first
    rw [quotedField, String.append_assoc]
    exact head?_of_isKey (keys field (List.mem_of_mem_head? listed)) _
  · intro part last
    rw [List.getLast?_map] at last
    obtain ⟨field, _, rfl⟩ := Option.map_eq_some_iff.mp last
    refine ⟨'\x27', ?_, by decide⟩
    rw [quotedField, String.toList_append, List.getLast?_append, getLast?_quote]
    rfl

/-- A result line with any fields, each value in quotes, reads back as it was written, and its data
reads back as the map in which each key has its last value. -/
theorem parse_encode_quotedRow (id : UInt64) (completed : Bool) (code : UInt32)
    (fields : List (String × String)) (keys : ∀ field ∈ fields, IsKey field.1) :
    let line : ResultLine := ⟨id, completed, code, quotedRow fields⟩
    ResultLine.parse line.encode = .ok line ∧
      ∃ row, Fields.parse line.data = .ok row ∧ ∀ key, row.get? key = lastValue? fields key := by
  intro line
  refine ⟨?_, Fields.ofPairs fields, Fields.parse_quotedRow keys, Fields.get?_ofPairs fields⟩
  rw [ResultLine.parse_encode, trimmed_quotedRow keys]

/-- Two fields of one key, the last one ending in an escaped backslash, a line feed and a space. -/
def awkwardFields : List (String × String) := [("name", "daily"), ("name", "it's \\\n ")]

theorem parse_encode_awkwardFields :
    (∀ field ∈ awkwardFields, IsKey field.1) ∧
      let line : ResultLine := ⟨7, false, 0, quotedRow awkwardFields⟩
      ResultLine.parse line.encode = .ok line ∧
        ∃ row, Fields.parse line.data = .ok row ∧ row.get? "name" = some "it's \\\n " := by
  have isKey : IsKey "name" := ⟨by decide, by simp [isBlank]⟩
  have keys : ∀ field ∈ awkwardFields, IsKey field.1 := by
    simp only [awkwardFields, List.forall_mem_cons]
    exact ⟨isKey, isKey, fun _ mem => absurd mem List.not_mem_nil⟩
  obtain ⟨line, row, parsed, values⟩ := parse_encode_quotedRow 7 false 0 awkwardFields keys
  exact ⟨keys, line, row, parsed, values "name"⟩

end BackupConsole.Wire
