import BackupConsole.Proofs.Text.Trimming
import BackupConsole.Wire.Fields

/-!
# The grammar of rows

A row is blank, or a field after blanks and then a row. A field has a bare value, which ends before a
blank or at the end of the text, or a value between two marks, which the next field may follow at
once. The reader accepts exactly these texts; in any other text the first place that fits no field
decides the fault.
-/

set_option autoImplicit false

namespace BackupConsole.Wire

open Text

structure IsKey (key : String) : Prop where
  nonempty : key ≠ ""
  plain : ∀ c ∈ key.toList, c ≠ '=' ∧ isBlank c = false

instance (key : String) : Decidable (IsKey key) :=
  decidable_of_iff (key ≠ "" ∧ (key.toList.all fun c => decide (c ≠ '=') && !isBlank c) = true)
    ⟨fun ⟨nonempty, plain⟩ => ⟨nonempty, by simpa using plain⟩,
      fun isKey => ⟨isKey.nonempty, by simpa using isKey.plain⟩⟩

theorem IsKey.exists_cons {key : String} (isKey : IsKey key) :
    ∃ c rest, key.toList = c :: rest ∧ c ≠ '=' ∧ isBlank c = false ∧
      ∀ c ∈ rest, c ≠ '=' ∧ isBlank c = false := by
  have plain := isKey.plain
  cases text : key.toList with
  | nil => exact absurd (String.toList_eq_nil_iff.mp text) isKey.nonempty
  | cons c rest =>
    rw [text] at plain
    obtain ⟨⟨differs, dark⟩, plain⟩ := List.forall_mem_cons.mp plain
    exact ⟨c, rest, rfl, differs, dark, plain⟩

/-- The text between two marks and the value that it stands for. -/
inductive Unescapes (mark : Char) : List Char → List Char → Prop where
  | nil : Unescapes mark [] []
  | plain {c : Char} {text value : List Char} (free : c ≠ '\\') (other : c ≠ mark)
      (rest : Unescapes mark text value) : Unescapes mark (c :: text) (c :: value)
  | literal (c : Char) {text value : List Char} (rest : Unescapes mark text value) :
      Unescapes mark ('\\' :: c :: text) (c :: value)

/-- The text after a mark that nothing closes. -/
inductive Unclosed (mark : Char) : List Char → Prop where
  | nil : Unclosed mark []
  | backslash : Unclosed mark ['\\']
  | plain {c : Char} {text : List Char} (free : c ≠ '\\') (other : c ≠ mark)
      (rest : Unclosed mark text) : Unclosed mark (c :: text)
  | literal (c : Char) {text : List Char} (rest : Unclosed mark text) :
      Unclosed mark ('\\' :: c :: text)

def Ends (rest : List Char) : Prop := ∀ c ∈ rest.head?, isBlank c = true

/-- A field as it stands before `rest`. -/
inductive IsField (rest : List Char) : List Char → String × String → Prop where
  | bare {key : String} {value : List Char} (isKey : IsKey key)
      (dark : ∀ c ∈ value, isBlank c = false)
      (unmarked : ∀ c ∈ value.head?, FieldReader.isMark c = false) (ends : Ends rest) :
      IsField rest (key.toList ++ '=' :: value) (key, String.ofList value)
  | quoted {key : String} {mark : Char} {text value : List Char} (isKey : IsKey key)
      (isMark : FieldReader.isMark mark = true) (unescapes : Unescapes mark text value) :
      IsField rest (key.toList ++ '=' :: mark :: (text ++ [mark])) (key, String.ofList value)

/-- The text is a row of these fields. -/
inductive Spelled : List Char → List (String × String) → Prop where
  | blank {text : List Char} (blank : ∀ c ∈ text, isBlank c = true) : Spelled text []
  | field {lead text rest : List Char} {field : String × String} {fields : List (String × String)}
      (blank : ∀ c ∈ lead, isBlank c = true) (isField : IsField rest text field)
      (more : Spelled rest fields) : Spelled (lead ++ (text ++ rest)) (field :: fields)

/-- A text that is no row, with the fault of the first place that fits no field. -/
inductive Broken (data : String) : List Char → Fault → Prop where
  | keyless {lead : List Char} (rest : List Char) (blank : ∀ c ∈ lead, isBlank c = true) :
      Broken data (lead ++ '=' :: rest) (.malformedField "" data)
  | valueless {lead rest : List Char} {key : String} (blank : ∀ c ∈ lead, isBlank c = true)
      (isKey : IsKey key) (ends : Ends rest) :
      Broken data (lead ++ (key.toList ++ rest)) (.malformedField key data)
  | unclosed {lead text : List Char} {key : String} {mark : Char}
      (blank : ∀ c ∈ lead, isBlank c = true) (isKey : IsKey key)
      (isMark : FieldReader.isMark mark = true) (unclosed : Unclosed mark text) :
      Broken data (lead ++ (key.toList ++ '=' :: mark :: text)) (.openQuote key)
  | later {lead text rest : List Char} {field : String × String} {fault : Fault}
      (blank : ∀ c ∈ lead, isBlank c = true) (isField : IsField rest text field)
      (more : Broken data rest fault) : Broken data (lead ++ (text ++ rest)) fault

/-! ## What the reader does with them -/

namespace FieldReader

variable (data : String) (m : Fields)

theorem run_of_step {reader next : FieldReader} {m m' : Fields} {c : Char}
    (steps : reader.step data m c = .ok (next, m')) (rest : List Char) :
    run data reader m (c :: rest) = run data next m' rest := by
  rw [run, steps]

theorem run_key {text : List Char} (plain : ∀ c ∈ text, c ≠ '=' ∧ isBlank c = false)
    (key rest : List Char) :
    run data (.inKey key) m (text ++ '=' :: rest) = run data (.afterKey (text.reverse ++ key)) m rest := by
  induction text generalizing key with
  | nil => exact run_of_step data rfl rest
  | cons c text ih =>
    obtain ⟨⟨differs, dark⟩, plain⟩ := List.forall_mem_cons.mp plain
    have steps : (inKey key).step data m c = .ok (.inKey (c :: key), m) := by
      simp [step, differs, dark]
    rw [List.cons_append, run_of_step data steps, ih plain, List.reverse_cons, List.append_assoc]
    rfl

theorem run_between_key {key : String} (isKey : IsKey key) (rest : List Char) :
    run data .between m (key.toList ++ '=' :: rest) = run data (.afterKey key.toList.reverse) m rest := by
  obtain ⟨c, tail, text, differs, dark, plain⟩ := isKey.exists_cons
  have steps : FieldReader.between.step data m c = .ok (.inKey [c], m) := by
    simp [step, differs, dark]
  rw [text, List.cons_append, run_of_step data steps, run_key data m plain, List.reverse_cons]

theorem run_blanks {lead : List Char} (blank : ∀ c ∈ lead, isBlank c = true) (rest : List Char) :
    run data .between m (lead ++ rest) = run data .between m rest := by
  induction lead with
  | nil => rfl
  | cons c lead ih =>
    obtain ⟨white, blank⟩ := List.forall_mem_cons.mp blank
    have steps : FieldReader.between.step data m c = .ok (.between, m) := by simp [step, white]
    rw [List.cons_append, run_of_step data steps, ih blank]

theorem run_bare_of_ends {rest : List Char} (ends : Ends rest) (key value : List Char) :
    run data (.bare key value) m rest =
      run data .between (m.insert (textOf key) (textOf value)) rest := by
  cases rest with
  | nil => rfl
  | cons c rest =>
    have white : isBlank c = true := ends c rfl
    have takes : (bare key value).step data m c =
        .ok (.between, m.insert (textOf key) (textOf value)) := by simp [step, white]
    have skips : FieldReader.between.step data (m.insert (textOf key) (textOf value)) c =
        .ok (.between, m.insert (textOf key) (textOf value)) := by simp [step, white]
    rw [run_of_step data takes, run_of_step data skips]

theorem run_bare {value : List Char} (dark : ∀ c ∈ value, isBlank c = false) {rest : List Char}
    (ends : Ends rest) (key before : List Char) :
    run data (.bare key before) m (value ++ rest) =
      run data .between (m.insert (textOf key) (textOf (value.reverse ++ before))) rest := by
  induction value generalizing before with
  | nil => exact run_bare_of_ends data m ends key before
  | cons c value ih =>
    obtain ⟨visible, dark⟩ := List.forall_mem_cons.mp dark
    have steps : (bare key before).step data m c = .ok (.bare key (c :: before), m) := by
      simp [step, visible]
    rw [List.cons_append, run_of_step data steps, ih dark, List.reverse_cons, List.append_assoc]
    rfl

theorem run_afterKey_bare {value : List Char} (dark : ∀ c ∈ value, isBlank c = false)
    (unmarked : ∀ c ∈ value.head?, isMark c = false) {rest : List Char} (ends : Ends rest)
    (key : List Char) :
    run data (.afterKey key) m (value ++ rest) =
      run data .between (m.insert (textOf key) (String.ofList value)) rest := by
  cases value with
  | nil =>
    cases rest with
    | nil => rfl
    | cons c rest =>
      have white : isBlank c = true := ends c rfl
      have noMark : isMark c = false := by
        cases mark : isMark c with
        | false => rfl
        | true =>
          simp only [isMark, Bool.or_eq_true, beq_iff_eq] at mark
          rcases mark with rfl | rfl <;> exact absurd white (by decide)
      have takes : (afterKey key).step data m c = .ok (.between, m.insert (textOf key) "") := by
        simp [step, noMark, white]
      have skips : FieldReader.between.step data (m.insert (textOf key) "") c =
          .ok (.between, m.insert (textOf key) "") := by simp [step, white]
      rw [List.nil_append, run_of_step data takes, run_of_step data skips]
  | cons c value =>
    obtain ⟨visible, dark⟩ := List.forall_mem_cons.mp dark
    have steps : (afterKey key).step data m c = .ok (.bare key [c], m) := by
      simp [step, unmarked c rfl, visible]
    rw [List.cons_append, run_of_step data steps, run_bare data m dark ends]
    simp [textOf]

theorem isMark_ne_backslash {mark : Char} (isMark : isMark mark = true) : mark ≠ '\\' := by
  rintro rfl
  exact absurd isMark (by decide)

theorem step_quoted_plain {mark c : Char} (free : c ≠ '\\') (other : c ≠ mark)
    (key before : List Char) :
    (quoted mark key before).step data m c = .ok (.quoted mark key (c :: before), m) := by
  simp [step, free, other]

theorem run_literal (mark c : Char) (key before rest : List Char) :
    run data (.quoted mark key before) m ('\\' :: c :: rest) =
      run data (.quoted mark key (c :: before)) m rest :=
  (run_of_step data rfl _).trans (run_of_step data rfl _)

theorem run_unescapes {mark : Char} (isMark : isMark mark = true) {text value : List Char}
    (unescapes : Unescapes mark text value) (key before rest : List Char) :
    run data (.quoted mark key before) m (text ++ mark :: rest) =
      run data .between (m.insert (textOf key) (textOf (value.reverse ++ before))) rest := by
  induction unescapes generalizing before with
  | nil =>
    have closes : (quoted mark key before).step data m mark =
        .ok (.between, m.insert (textOf key) (textOf before)) := by
      simp [step, isMark_ne_backslash isMark]
    exact run_of_step data closes rest
  | plain free other _ ih =>
    rw [List.cons_append, run_of_step data (step_quoted_plain data m free other key before), ih,
      List.reverse_cons, List.append_assoc]
    rfl
  | literal c _ ih =>
    rw [List.cons_append, List.cons_append, run_literal, ih, List.reverse_cons, List.append_assoc]
    rfl

theorem run_unclosed {mark : Char} {text : List Char} (unclosed : Unclosed mark text)
    (key before : List Char) :
    run data (.quoted mark key before) m text = .error (.openQuote (textOf key)) := by
  induction unclosed generalizing before with
  | nil => rfl
  | backslash => rfl
  | plain free other _ ih =>
    rw [run_of_step data (step_quoted_plain data m free other key before), ih]
  | literal c _ ih => rw [run_literal, ih]

theorem textOf_reverse (key : String) : textOf key.toList.reverse = key := by simp [textOf]

theorem run_mark {key : String} (isKey : IsKey key) {mark : Char} (isMark : isMark mark = true)
    (rest : List Char) :
    run data .between m (key.toList ++ '=' :: mark :: rest) =
      run data (.quoted mark key.toList.reverse []) m rest := by
  have opens : (afterKey key.toList.reverse).step data m mark =
      .ok (.quoted mark key.toList.reverse [], m) := by simp [step, isMark]
  rw [run_between_key data m isKey, run_of_step data opens]

theorem run_isField {rest text : List Char} {field : String × String}
    (isField : IsField rest text field) :
    run data .between m (text ++ rest) = run data .between (m.insert field.1 field.2) rest := by
  cases isField with
  | bare isKey dark unmarked ends =>
    rw [List.append_assoc, List.cons_append, run_between_key data m isKey,
      run_afterKey_bare data m dark unmarked ends, textOf_reverse]
  | quoted isKey isMark unescapes =>
    rw [List.append_assoc, List.cons_append, List.cons_append, List.append_assoc,
      List.singleton_append, run_mark data m isKey isMark, run_unescapes data m isMark unescapes,
      textOf_reverse]
    simp [textOf]

theorem run_inKey_of_ends {text : List Char} (plain : ∀ c ∈ text, c ≠ '=' ∧ isBlank c = false)
    {rest : List Char} (ends : Ends rest) (key : List Char) :
    run data (.inKey key) m (text ++ rest) =
      .error (.malformedField (textOf (text.reverse ++ key)) data) := by
  induction text generalizing key with
  | nil =>
    cases rest with
    | nil => rfl
    | cons c rest =>
      have white : isBlank c = true := ends c rfl
      have differs : c ≠ '=' := by
        rintro rfl
        exact absurd white (by decide)
      simp [run, step, differs, white]
  | cons c text ih =>
    obtain ⟨⟨differs, dark⟩, plain⟩ := List.forall_mem_cons.mp plain
    have steps : (inKey key).step data m c = .ok (.inKey (c :: key), m) := by
      simp [step, differs, dark]
    rw [List.cons_append, run_of_step data steps, ih plain, List.reverse_cons, List.append_assoc]
    rfl

theorem run_valueless {key : String} (isKey : IsKey key) {rest : List Char} (ends : Ends rest) :
    run data .between m (key.toList ++ rest) = .error (.malformedField key data) := by
  obtain ⟨c, tail, text, differs, dark, plain⟩ := isKey.exists_cons
  have steps : FieldReader.between.step data m c = .ok (.inKey [c], m) := by
    simp [step, differs, dark]
  have whole : textOf (tail.reverse ++ [c]) = key := by
    rw [← List.reverse_cons, ← text, textOf_reverse]
  rw [text, List.cons_append, run_of_step data steps, run_inKey_of_ends data m plain ends, whole]

theorem run_spelled {text : List Char} {fields : List (String × String)}
    (spelled : Spelled text fields) :
    run data .between m text = .ok ⟨fields.reverse ++ m.entries⟩ := by
  induction spelled generalizing m with
  | blank blank =>
    have skipped := run_blanks data m blank []
    rw [List.append_nil] at skipped
    exact skipped
  | field blank isField _ ih =>
    rw [run_blanks data m blank, run_isField data m isField, ih, List.reverse_cons,
      List.append_assoc]
    rfl

theorem run_broken {text : List Char} {fault : Fault} (broken : Broken data text fault) :
    run data .between m text = .error fault := by
  induction broken generalizing m with
  | keyless rest blank =>
    rw [run_blanks data m blank]
    rfl
  | valueless blank isKey ends => rw [run_blanks data m blank, run_valueless data m isKey ends]
  | unclosed blank isKey isMark unclosed =>
    rw [run_blanks data m blank, run_mark data m isKey isMark, run_unclosed data m unclosed,
      textOf_reverse]
  | later blank isField _ ih => rw [run_blanks data m blank, run_isField data m isField, ih]

end FieldReader

/-! ## Every text is a row or breaks somewhere -/

theorem closed_or_unclosed (mark : Char) (text : List Char) :
    (∃ inner value rest, text = inner ++ mark :: rest ∧ Unescapes mark inner value) ∨
      Unclosed mark text := by
  cases text with
  | nil => exact .inr .nil
  | cons c text =>
    by_cases closes : c = mark
    · subst closes
      exact .inl ⟨[], [], text, rfl, .nil⟩
    by_cases escapes : c = '\\'
    · subst escapes
      cases text with
      | nil => exact .inr .backslash
      | cons d text =>
        obtain ⟨inner, value, rest, rfl, unescapes⟩ | unclosed := closed_or_unclosed mark text
        · exact .inl ⟨'\\' :: d :: inner, d :: value, rest, rfl, .literal d unescapes⟩
        · exact .inr (.literal d unclosed)
    · obtain ⟨inner, value, rest, rfl, unescapes⟩ | unclosed := closed_or_unclosed mark text
      · exact .inl ⟨c :: inner, c :: value, rest, rfl, .plain escapes closes unescapes⟩
      · exact .inr (.plain escapes closes unclosed)
termination_by text.length

/-- After a key and an equals sign stands a value, unless a mark there is never closed. -/
theorem isField_or_unclosed {key : String} (isKey : IsKey key) (text : List Char) :
    (∃ value rest field, text = value ++ rest ∧ IsField rest (key.toList ++ '=' :: value) field) ∨
      ∃ mark inner, text = mark :: inner ∧ FieldReader.isMark mark = true ∧ Unclosed mark inner := by
  have bare (unmarked : ∀ c ∈ text.head?, FieldReader.isMark c = false) :
      ∃ value rest field, text = value ++ rest ∧ IsField rest (key.toList ++ '=' :: value) field := by
    obtain ⟨value, rest, rfl, dark, stops⟩ := exists_span (fun c => !isBlank c) text
    have unmarked : ∀ c ∈ value.head?, FieldReader.isMark c = false := by
      intro c head
      apply unmarked c
      rw [List.head?_append, Option.mem_def.mp head]
      rfl
    exact ⟨value, rest, _, rfl, .bare isKey (by simpa using dark) unmarked (by simpa [Ends] using stops)⟩
  cases text with
  | nil => exact .inl (bare (by simp))
  | cons c text =>
    cases marks : FieldReader.isMark c with
    | false => exact .inl (bare (by simpa using marks))
    | true =>
      obtain ⟨inner, value, rest, rfl, unescapes⟩ | unclosed := closed_or_unclosed c text
      · refine .inl ⟨c :: (inner ++ [c]), rest, _, ?_, .quoted isKey marks unescapes⟩
        simp
      · exact .inr ⟨c, text, rfl, marks, unclosed⟩

theorem exists_key {c : Char} (dark : isBlank c = false) (differs : c ≠ '=') (text : List Char) :
    ∃ key rest, IsKey key ∧ c :: text = key.toList ++ rest ∧ (Ends rest ∨ rest.head? = some '=') := by
  obtain ⟨front, rest, rfl, plain, stops⟩ :=
    exists_span (fun c => decide (c ≠ '=') && !isBlank c) text
  have plain : ∀ d ∈ front, d ≠ '=' ∧ isBlank d = false := by simpa using plain
  refine ⟨String.ofList (c :: front), rest, ⟨by simp, ?_⟩, by simp, ?_⟩
  · rw [String.toList_ofList, List.forall_mem_cons]
    exact ⟨⟨differs, dark⟩, plain⟩
  · cases rest with
    | nil => exact .inl (by simp [Ends])
    | cons d rest =>
      by_cases equals : d = '='
      · exact .inr (by simp [equals])
      · exact .inl (by simpa [Ends, equals] using stops)

theorem spelled_or_broken (data : String) (text : List Char) :
    (∃ fields, Spelled text fields) ∨ ∃ fault, Broken data text fault := by
  obtain ⟨lead, rest, rfl, blank, stops⟩ := exists_span isBlank text
  cases rest with
  | nil => exact .inl ⟨[], by simpa using Spelled.blank blank⟩
  | cons c tail =>
    by_cases equals : c = '='
    · subst equals
      exact .inr ⟨_, .keyless tail blank⟩
    obtain ⟨key, rest, isKey, same, ends | follows⟩ := exists_key (stops c rfl) equals tail
    · rw [same]
      exact .inr ⟨_, .valueless blank isKey ends⟩
    obtain ⟨after, rfl⟩ := List.head?_eq_some_iff.mp follows
    rw [same]
    obtain ⟨value, rest, field, rfl, isField⟩ | ⟨mark, inner, rfl, isMark, unclosed⟩ :=
      isField_or_unclosed isKey after
    · -- a field is off the front: the recursion is on what stands after it, not on single characters
      have shorter : rest.length < (lead ++ c :: tail).length := by
        rw [same]
        simp
        omega
      have later : lead ++ (key.toList ++ '=' :: (value ++ rest)) =
          lead ++ (key.toList ++ '=' :: value ++ rest) := by simp
      rw [later]
      obtain ⟨fields, more⟩ | ⟨fault, more⟩ := spelled_or_broken data rest
      · exact .inl ⟨field :: fields, .field blank isField more⟩
      · exact .inr ⟨fault, .later blank isField more⟩
    · exact .inr ⟨_, .unclosed blank isKey isMark unclosed⟩
termination_by text.length

/-! ## What is read -/

def lastValue? (fields : List (String × String)) (key : String) : Option String :=
  (fields.findRev? fun field => field.1 == key).map Prod.snd

namespace Fields

theorem lookup_eq_find? (fields : List (String × String)) (key : String) :
    fields.lookup key = (fields.find? fun field => field.1 == key).map Prod.snd := by
  induction fields with
  | nil => rfl
  | cons field fields ih =>
    rw [List.lookup_cons, List.find?_cons, Bool.beq_comm (a := key), ih]
    cases field.1 == key <;> rfl

theorem get?_ofPairs (fields : List (String × String)) (key : String) :
    (ofPairs fields).get? key = lastValue? fields key := by
  rw [get?, ofPairs, lookup_eq_find?, lastValue?, List.findRev?_eq_find?_reverse]

variable {data : String}

theorem parse_of_spelled {fields : List (String × String)} (spelled : Spelled data.toList fields) :
    parse data = .ok (ofPairs fields) := by
  rw [parse, FieldReader.run_spelled _ _ spelled, empty, List.append_nil, ofPairs]

theorem parse_of_broken {fault : Fault} (broken : Broken data data.toList fault) :
    parse data = .error fault := FieldReader.run_broken data empty broken

theorem spelled_of_parse {m : Fields} (parsed : parse data = .ok m) :
    ∃ fields, Spelled data.toList fields ∧ m = ofPairs fields := by
  obtain ⟨fields, spelled⟩ | ⟨fault, broken⟩ := spelled_or_broken data data.toList
  · rw [parse_of_spelled spelled] at parsed
    exact ⟨fields, spelled, (Except.ok.inj parsed).symm⟩
  · rw [parse_of_broken broken] at parsed
    cases parsed

theorem broken_of_parse {fault : Fault} (failed : parse data = .error fault) :
    Broken data data.toList fault := by
  obtain ⟨fields, spelled⟩ | ⟨other, broken⟩ := spelled_or_broken data data.toList
  · rw [parse_of_spelled spelled] at failed
    cases failed
  · rw [parse_of_broken broken] at failed
    cases failed
    exact broken

/-- A text is read exactly if it is a row of fields, and then each key has the value of its last
field; every other text is a fault, which its first place that fits no field decides. -/
theorem parse_exact (data : String) :
    (∀ m, parse data = .ok m ↔ ∃ fields, Spelled data.toList fields ∧ m = ofPairs fields ∧
      ∀ key, m.get? key = lastValue? fields key) ∧
    ((¬∃ fields, Spelled data.toList fields) ↔ ∃ fault, parse data = .error fault) ∧
    ∀ fault, parse data = .error fault ↔ Broken data data.toList fault := by
  refine ⟨fun m => ⟨fun parsed => ?_, ?_⟩, ⟨fun none => ?_, ?_⟩, fun fault =>
    ⟨broken_of_parse, parse_of_broken⟩⟩
  · obtain ⟨fields, spelled, rfl⟩ := spelled_of_parse parsed
    exact ⟨fields, spelled, rfl, get?_ofPairs fields⟩
  · rintro ⟨fields, spelled, rfl, _⟩
    exact parse_of_spelled spelled
  · cases parsed : parse data with
    | ok m =>
      obtain ⟨fields, spelled, _⟩ := spelled_of_parse parsed
      exact absurd ⟨fields, spelled⟩ none
    | error fault => exact ⟨fault, rfl⟩
  · rintro ⟨fault, failed⟩ ⟨fields, spelled⟩
    rw [parse_of_spelled spelled] at failed
    cases failed

end Fields

end BackupConsole.Wire
