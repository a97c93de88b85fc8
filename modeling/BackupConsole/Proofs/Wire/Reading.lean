import BackupConsole.Proofs.Text.Trimming
import BackupConsole.Wire.Client

set_option autoImplicit false

namespace BackupConsole.Wire

open Text

def textOf? (bytes : List UInt8) : Option String := String.fromUTF8? ⟨bytes.toArray⟩

def AllBlank (text : String) : Prop := ∀ c ∈ text.toList, isBlank c = true

/-- The bytes are the text of this result line. -/
structure Carries (bytes : List UInt8) (line : ResultLine) : Prop where
  parsed : ∃ text, textOf? bytes = some text ∧ ¬AllBlank text ∧ ResultLine.parse text = .ok line

/-- A line of the answer to request `id`, and the row decoded from it if it has data. -/
structure IsRow (id : UInt64) (bytes : List UInt8) (line : ResultLine) (row : Option Fields) :
    Prop where
  carries : Carries bytes line
  own : line.id = id
  code : line.code = 0
  data : (line.data = "" ∧ row = none) ∨
    (line.data ≠ "" ∧ ∃ fields, Fields.parse line.data = .ok fields ∧ row = some fields)

/-- A line that rejects request `id`. -/
inductive Rejects (id : UInt64) (bytes : List UInt8) : Failure → Prop where
  | code (line : ResultLine) (carries : Carries bytes line) (own : line.id = id)
      (code : line.code ≠ 0) : Rejects id bytes line.toFailure

/-- A line that no answer to request `id` can have in it. -/
inductive Offends (id : UInt64) (bytes : List UInt8) : Failure → Prop where
  | noText (none : textOf? bytes = none) :
      Offends id bytes (.connection "stream did not contain valid UTF-8")
  | malformed (text : String) (read : textOf? bytes = some text) (visible : ¬AllBlank text)
      (fault : Fault) (fails : ResultLine.parse text = .error fault) :
      Offends id bytes (.communication fault)
  | stray (line : ResultLine) (carries : Carries bytes line) (other : line.id ≠ id) :
      Offends id bytes (.communication (.strayLine line.id id))
  | undecodable (line : ResultLine) (carries : Carries bytes line) (own : line.id = id)
      (code : line.code = 0) (data : line.data ≠ "") (fault : Fault)
      (fails : Fields.parse line.data = .error fault) : Offends id bytes (.communication fault)

/-- Lines that an answer to request `id` goes on after, and the rows in them. -/
inductive Passed (id : UInt64) : List (List UInt8) → List Fields → Prop where
  | nil : Passed id [] []
  | blank {bytes : List UInt8} {lines : List (List UInt8)} {rows : List Fields} (text : String)
      (read : textOf? bytes = some text) (blank : AllBlank text) (rest : Passed id lines rows) :
      Passed id (bytes :: lines) rows
  | row {bytes : List UInt8} {lines : List (List UInt8)} {rows : List Fields} (line : ResultLine)
      (row : Option Fields) (isRow : IsRow id bytes line row) (more : line.completed = false)
      (rest : Passed id lines rows) : Passed id (bytes :: lines) (row.toList ++ rows)

/-- The answer to request `id` in the lines of a connection, and the lines that are left for the next
request; none if the connection is given up. -/
inductive Answered (id : UInt64) :
    List (List UInt8) → Answer → Option (List (List UInt8)) → Prop where
  | completed {before : List (List UInt8)} {rows : List Fields} (passed : Passed id before rows)
      {bytes : List UInt8} (line : ResultLine) (row : Option Fields)
      (isRow : IsRow id bytes line row) (last : line.completed = true)
      (rest : List (List UInt8)) :
      Answered id (before ++ bytes :: rest) { rows := rows ++ row.toList } (some rest)
  | rejected {before : List (List UInt8)} {rows : List Fields} (passed : Passed id before rows)
      {bytes : List UInt8} (failure : Failure) (rejects : Rejects id bytes failure)
      (rest : List (List UInt8)) :
      Answered id (before ++ bytes :: rest) { rows, outcome := .error failure } (some rest)
  | offended {before : List (List UInt8)} {rows : List Fields} (passed : Passed id before rows)
      {bytes : List UInt8} (failure : Failure) (offends : Offends id bytes failure)
      (rest : List (List UInt8)) :
      Answered id (before ++ bytes :: rest) { rows, outcome := .error failure } none
  | ended {before : List (List UInt8)} {rows : List Fields} (passed : Passed id before rows) :
      Answered id before { rows, outcome := .error closedByServer } none

/-! ## One line -/

section

variable {id : UInt64} {bytes : List UInt8}

theorem isEmpty_trim_iff (text : String) : (trim text.toList).isEmpty = true ↔ AllBlank text := by
  rw [List.isEmpty_iff, trim_eq_nil_iff]
  rfl

theorem ofBytes_of_carries {line : ResultLine} (carries : Carries bytes line) :
    Reading.ofBytes id bytes = Reading.ofLine id line := by
  obtain ⟨text, read, visible, parsed⟩ := carries.parsed
  rw [textOf?] at read
  rw [Reading.ofBytes, read]
  dsimp only
  rw [Reading.ofText, if_neg (fun blank => visible ((isEmpty_trim_iff text).mp blank)), parsed]

theorem ofBytes_of_blank {text : String} (read : textOf? bytes = some text)
    (blank : AllBlank text) : Reading.ofBytes id bytes = .blank := by
  rw [textOf?] at read
  rw [Reading.ofBytes, read]
  dsimp only
  rw [Reading.ofText, if_pos ((isEmpty_trim_iff text).mpr blank)]

theorem ofBytes_of_isRow {line : ResultLine} {row : Option Fields} (isRow : IsRow id bytes line row) :
    Reading.ofBytes id bytes = .row row line.completed := by
  rw [ofBytes_of_carries isRow.carries, Reading.ofLine, if_neg (not_not.mpr isRow.own),
    if_neg (not_not.mpr isRow.code)]
  obtain ⟨empty, rfl⟩ | ⟨data, fields, parsed, rfl⟩ := isRow.data
  · rw [empty]
    rfl
  · rw [if_neg (fun empty => data (String.isEmpty_iff.mp empty)), parsed]

theorem ofBytes_of_rejects {failure : Failure} (rejects : Rejects id bytes failure) :
    Reading.ofBytes id bytes = .failed failure := by
  cases rejects with
  | code line carries own code =>
    rw [ofBytes_of_carries carries, Reading.ofLine, if_neg (not_not.mpr own), if_pos code]

theorem ofBytes_of_offends {failure : Failure} (offends : Offends id bytes failure) :
    Reading.ofBytes id bytes = .failed failure := by
  cases offends with
  | noText none =>
    rw [textOf?] at none
    rw [Reading.ofBytes, none]
  | malformed text read visible fault fails =>
    rw [textOf?] at read
    rw [Reading.ofBytes, read]
    dsimp only
    rw [Reading.ofText, if_neg (fun blank => visible ((isEmpty_trim_iff text).mp blank)), fails]
  | stray line carries other =>
    rw [ofBytes_of_carries carries, Reading.ofLine, if_pos other]
  | undecodable line carries own code data fault fails =>
    rw [ofBytes_of_carries carries, Reading.ofLine, if_neg (not_not.mpr own),
      if_neg (not_not.mpr code), if_neg (fun empty => data (String.isEmpty_iff.mp empty)), fails]

/-- What a line means to the reader. -/
inductive Meaning (id : UInt64) (bytes : List UInt8) : Reading → Prop where
  | blank (text : String) (read : textOf? bytes = some text) (blank : AllBlank text) :
      Meaning id bytes .blank
  | row (line : ResultLine) (row : Option Fields) (isRow : IsRow id bytes line row) :
      Meaning id bytes (.row row line.completed)
  | rejects (failure : Failure) (rejects : Rejects id bytes failure) :
      Meaning id bytes (.failed failure)
  | offends (failure : Failure) (offends : Offends id bytes failure) :
      Meaning id bytes (.failed failure)

theorem meaning_of_carries {line : ResultLine} (carries : Carries bytes line) :
    Meaning id bytes (Reading.ofLine id line) := by
  unfold Reading.ofLine
  split
  · exact .offends _ (.stray line carries (by assumption))
  rename_i own
  have own : line.id = id := not_not.mp own
  split
  · exact .rejects _ (.code line carries own (by assumption))
  rename_i code
  have code : line.code = 0 := not_not.mp code
  split
  · rename_i empty
    exact .row line none ⟨carries, own, code, .inl ⟨String.isEmpty_iff.mp empty, rfl⟩⟩
  rename_i data
  have data : line.data ≠ "" := fun empty => data (String.isEmpty_iff.mpr empty)
  cases fields : Fields.parse line.data with
  | error fault => exact .offends _ (.undecodable line carries own code data fault fields)
  | ok fields' => exact .row line (some fields') ⟨carries, own, code, .inr ⟨data, fields', fields, rfl⟩⟩

theorem meaning_ofBytes (id : UInt64) (bytes : List UInt8) :
    Meaning id bytes (Reading.ofBytes id bytes) := by
  cases read : textOf? bytes with
  | none =>
    have offends : Offends id bytes _ := .noText read
    rw [ofBytes_of_offends offends]
    exact .offends _ offends
  | some text =>
    by_cases blank : AllBlank text
    · rw [ofBytes_of_blank read blank]
      exact .blank text read blank
    cases parsed : ResultLine.parse text with
    | error fault =>
      have offends : Offends id bytes _ := .malformed text read blank fault parsed
      rw [ofBytes_of_offends offends]
      exact .offends _ offends
    | ok line =>
      have carries : Carries bytes line := ⟨text, read, blank, parsed⟩
      rw [ofBytes_of_carries carries]
      exact meaning_of_carries carries

theorem keepsConnection_of_rejects {failure : Failure} (rejects : Rejects id bytes failure) :
    keepsConnection (.error failure) = true := by
  obtain ⟨line⟩ := rejects
  unfold ResultLine.toFailure
  dsimp only
  split
  · split <;> rfl
  · rfl

theorem keepsConnection_of_offends {failure : Failure} (offends : Offends id bytes failure) :
    keepsConnection (.error failure) = false := by
  cases offends <;> rfl

end

/-! ## All lines -/

def leftAfter (read : Answer × List (List UInt8)) : Option (List (List UInt8)) :=
  if keepsConnection read.1.outcome then some read.2 else none

section

variable {id : UInt64} {lines : List (List UInt8)} {answer : Answer}
  {left : Option (List (List UInt8))}

theorem Answered.after_blank (answered : Answered id lines answer left) {bytes : List UInt8}
    {text : String} (read : textOf? bytes = some text) (blank : AllBlank text) :
    Answered id (bytes :: lines) answer left := by
  cases answered with
  | completed passed line row isRow last rest =>
    exact .completed (.blank text read blank passed) line row isRow last rest
  | rejected passed failure rejects rest =>
    exact .rejected (.blank text read blank passed) failure rejects rest
  | offended passed failure offends rest =>
    exact .offended (.blank text read blank passed) failure offends rest
  | ended passed => exact .ended (.blank text read blank passed)

theorem Answered.after_row (answered : Answered id lines answer left) {bytes : List UInt8}
    {line : ResultLine} {row : Option Fields} (isRow : IsRow id bytes line row)
    (more : line.completed = false) :
    Answered id (bytes :: lines) { answer with rows := row.toList ++ answer.rows } left := by
  cases answered with
  | completed passed last lastRow lastIsRow completes rest =>
    dsimp only
    rw [← List.append_assoc]
    exact .completed (.row line row isRow more passed) last lastRow lastIsRow completes rest
  | rejected passed failure rejects rest =>
    exact .rejected (.row line row isRow more passed) failure rejects rest
  | offended passed failure offends rest =>
    exact .offended (.row line row isRow more passed) failure offends rest
  | ended passed => exact .ended (.row line row isRow more passed)

theorem readAnswer_of_blank {bytes : List UInt8} (blank : Reading.ofBytes id bytes = .blank)
    (rest : List (List UInt8)) : readAnswer id (bytes :: rest) = readAnswer id rest := by
  rw [readAnswer, blank]

theorem readAnswer_of_failed {bytes : List UInt8} {failure : Failure}
    (failed : Reading.ofBytes id bytes = .failed failure) (rest : List (List UInt8)) :
    readAnswer id (bytes :: rest) = (.failed failure, rest) := by
  rw [readAnswer, failed]

theorem readAnswer_of_last {bytes : List UInt8} {row : Option Fields}
    (last : Reading.ofBytes id bytes = .row row true) (rest : List (List UInt8)) :
    readAnswer id (bytes :: rest) = ({ rows := row.toList }, rest) := by
  rw [readAnswer, last]
  rfl

theorem readAnswer_of_more {bytes : List UInt8} {row : Option Fields}
    (more : Reading.ofBytes id bytes = .row row false) (rest : List (List UInt8)) :
    readAnswer id (bytes :: rest) =
      ({ (readAnswer id rest).1 with rows := row.toList ++ (readAnswer id rest).1.rows },
        (readAnswer id rest).2) := by
  rw [readAnswer, more]
  rfl

theorem leftAfter_failed (failure : Failure) (rows : List Fields) (rest : List (List UInt8)) :
    leftAfter ({ rows, outcome := .error failure }, rest) =
      if keepsConnection (.error failure) then some rest else none := rfl

theorem answered_readAnswer (id : UInt64) (lines : List (List UInt8)) :
    Answered id lines (readAnswer id lines).1 (leftAfter (readAnswer id lines)) := by
  induction lines with
  | nil => exact .ended .nil
  | cons bytes lines ih =>
    have meaning := meaning_ofBytes id bytes
    cases reads : Reading.ofBytes id bytes with
    | blank =>
      rw [reads] at meaning
      obtain ⟨text, read, blank⟩ := meaning
      rw [readAnswer_of_blank reads]
      exact ih.after_blank read blank
    | row row last =>
      rw [reads] at meaning
      cases meaning with
      | row line _ isRow =>
        cases completed : line.completed with
        | true =>
          rw [completed] at reads
          rw [readAnswer_of_last reads]
          exact .completed .nil line row isRow completed lines
        | false =>
          rw [completed] at reads
          rw [readAnswer_of_more reads]
          exact ih.after_row isRow completed
    | failed failure =>
      rw [reads] at meaning
      rw [readAnswer_of_failed reads, Answer.failed, leftAfter_failed]
      cases meaning with
      | rejects _ rejects =>
        rw [if_pos (keepsConnection_of_rejects rejects)]
        exact .rejected .nil failure rejects lines
      | offends _ offends =>
        rw [if_neg (Bool.eq_false_iff.mp (keepsConnection_of_offends offends))]
        exact .offended .nil failure offends lines

theorem readAnswer_of_passed {before : List (List UInt8)} {rows : List Fields}
    (passed : Passed id before rows) (rest : List (List UInt8)) :
    readAnswer id (before ++ rest) =
      ({ (readAnswer id rest).1 with rows := rows ++ (readAnswer id rest).1.rows },
        (readAnswer id rest).2) := by
  induction passed with
  | nil => rfl
  | blank text read blank passed ih =>
    rw [List.cons_append, readAnswer_of_blank (ofBytes_of_blank read blank)]
    exact ih
  | row line row isRow more passed ih =>
    have reads := ofBytes_of_isRow isRow
    rw [more] at reads
    rw [List.cons_append, readAnswer_of_more reads, ih, List.append_assoc]

/-- The lines of a connection determine the answer and what is left of them. -/
theorem answered_iff :
    Answered id lines answer left ↔
      answer = (readAnswer id lines).1 ∧ left = leftAfter (readAnswer id lines) := by
  refine ⟨fun answered => ?_, ?_⟩
  · cases answered with
    | completed passed line row isRow last rest =>
      have reads := ofBytes_of_isRow isRow
      rw [last] at reads
      rw [readAnswer_of_passed passed, readAnswer_of_last reads]
      exact ⟨rfl, rfl⟩
    | rejected passed failure rejects rest =>
      rw [readAnswer_of_passed passed, readAnswer_of_failed (ofBytes_of_rejects rejects),
        Answer.failed, List.append_nil, leftAfter_failed,
        if_pos (keepsConnection_of_rejects rejects)]
      exact ⟨rfl, rfl⟩
    | offended passed failure offends rest =>
      rw [readAnswer_of_passed passed, readAnswer_of_failed (ofBytes_of_offends offends),
        Answer.failed, List.append_nil, leftAfter_failed,
        if_neg (Bool.eq_false_iff.mp (keepsConnection_of_offends offends))]
      exact ⟨rfl, rfl⟩
    | ended passed =>
      have read := readAnswer_of_passed passed []
      rw [List.append_nil, readAnswer, Answer.failed, List.append_nil] at read
      rw [read]
      exact ⟨rfl, rfl⟩
  · rintro ⟨rfl, rfl⟩
    exact answered_readAnswer id lines

end

end BackupConsole.Wire
