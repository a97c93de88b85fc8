import BackupConsole.Proofs.Wire.Quoted
import BackupConsole.Simulation.Rows

set_option autoImplicit false

namespace BackupConsole.Simulation

open Text Wire Job Number

def Quoted (v : String) : Prop := v = "" ∨ ∃ c ∈ v.toList, needsQuotes c = true

instance (v : String) : Decidable (Quoted v) :=
  decidable_of_iff (v = "" ∨ v.toList.any needsQuotes = true) (by rw [Quoted, List.any_eq_true])

def shown (v : String) : String :=
  if Quoted v then v else String.ofList (v.toList.takeWhile fun c => !isBlank c)

def lost (v : String) : List Char :=
  if Quoted v then [] else v.toList.dropWhile fun c => !isBlank c

def Survives (v : String) : Prop := Quoted v ∨ ∀ c ∈ v.toList, isBlank c = false

theorem valueText_eq (v : String) : valueText v = if Quoted v then quote v else v := by
  unfold valueText
  congr 1
  simp [Quoted]

theorem shown_eq_self_iff (v : String) : shown v = v ↔ Survives v := by
  unfold shown
  split
  · rename_i quoted
    exact iff_of_true rfl (.inl quoted)
  · rename_i plain
    constructor
    · intro same
      have all : v.toList.takeWhile (fun c => !isBlank c) = v.toList := by
        rw [← String.toList_inj] at same
        simpa using same
      exact .inr (by simpa using List.takeWhile_eq_self_iff.mp all)
    · rintro (quoted | dark)
      · exact absurd quoted plain
      · have all : v.toList.takeWhile (fun c => !isBlank c) = v.toList :=
          List.takeWhile_eq_self_iff.mpr (by simpa using dark)
        rw [all, String.ofList_toList]

theorem lost_of_survives {v : String} (survives : Survives v) : lost v = [] := by
  rw [lost]
  split
  · rfl
  · rename_i plain
    have dark := survives.resolve_left plain
    exact List.dropWhile_eq_nil_iff.mpr (by simpa using dark)

theorem survives_of_spaces {v : String}
    (plain : ∀ c ∈ v.toList, isBlank c = true → c = ' ') : Survives v := by
  by_cases space : ' ' ∈ v.toList
  · exact .inl (.inr ⟨' ', space, rfl⟩)
  · refine .inr fun c mem => Bool.not_eq_true _ ▸ fun blank => ?_
    exact space (plain c mem blank ▸ mem)

/-! ## One field -/

def writtenField (field : String × String) : String := field.1 ++ "=" ++ valueText field.2

def shownField (field : String × String) : String × String := (field.1, shown field.2)

theorem not_needsQuotes {v : String} (plain : ¬Quoted v) {c : Char} (mem : c ∈ v.toList) :
    c ≠ '=' ∧ FieldReader.isMark c = false := by
  have free : needsQuotes c = false := by
    cases special : needsQuotes c with
    | false => rfl
    | true => exact absurd (.inr ⟨c, mem, special⟩) plain
  simp only [needsQuotes, Bool.or_eq_false_iff, decide_eq_false_iff_not] at free
  exact ⟨free.2, by simp [FieldReader.isMark, free]⟩

theorem head?_lost {v : String} {c : Char} (head : c ∈ (lost v).head?) : isBlank c = true := by
  unfold lost at head
  split at head
  · cases head
  · have stops := List.head?_dropWhile_not (fun c => !isBlank c) v.toList
    rw [Option.mem_def.mp head] at stops
    simpa using stops

theorem ends_append {front rest : List Char} (first : Ends front) (second : Ends rest) :
    Ends (front ++ rest) := by
  cases front with
  | nil => exact second
  | cons c front => exact first

theorem writtenAs_writtenField {field : String × String} (isKey : IsKey field.1) :
    WrittenAs (writtenField field) (lost field.2) (shownField field) := by
  obtain ⟨key, v⟩ := field
  by_cases quoted : Quoted v
  · have same : writtenField (key, v) = quotedField (key, v) := by
      rw [writtenField, valueText_eq, if_pos quoted, quotedField]
    have none : lost v = [] := if_pos quoted
    have whole : shown v = v := if_pos quoted
    rw [same, none, shownField, whole]
    exact writtenAs_quotedField isKey
  · intro rest ends
    have lostEnds : Ends (lost v) := fun _ => head?_lost
    have ends := ends_append lostEnds ends
    have isField : IsField (lost v ++ rest)
        (key.toList ++ '=' :: v.toList.takeWhile fun c => !isBlank c)
        (key, String.ofList (v.toList.takeWhile fun c => !isBlank c)) := by
      refine .bare isKey ?_ ?_ ends
      · intro c mem
        simpa using List.mem_takeWhile_imp mem
      · intro c head
        have mem := List.takeWhile_subset _ (List.mem_of_mem_head? head)
        exact (not_needsQuotes quoted mem).2
    refine ⟨_, ?_, by simpa [shownField, shown, quoted] using isField⟩
    simp [writtenField, valueText_eq, lost, quoted]

/-- What is lost begins with a word that is no field, unless all of it is blank. -/
theorem exists_valueless {v : String} (visible : ∃ c ∈ lost v, isBlank c = false)
    {rest : List Char} (ends : Ends rest) :
    ∃ lead key after, lost v ++ rest = lead ++ (key.toList ++ after) ∧
      (∀ c ∈ lead, isBlank c = true) ∧ IsKey key ∧ Ends after := by
  obtain ⟨lead, word, same, blank, stops⟩ := exists_span isBlank (lost v)
  cases word with
  | nil =>
    obtain ⟨c, mem, dark⟩ := visible
    rw [same, List.append_nil] at mem
    rw [blank c mem] at dark
    cases dark
  | cons c tail =>
    have noEquals : '=' ∉ c :: tail := by
      intro mem
      have mem : '=' ∈ lost v := by
        rw [same]
        exact List.mem_append_right lead mem
      unfold lost at mem
      split at mem
      · cases mem
      · rename_i plain
        exact (not_needsQuotes plain ((List.dropWhile_suffix _).subset mem)).1 rfl
    have differs : c ≠ '=' := fun equals => noEquals (by simp [equals])
    obtain ⟨key, after, isKey, word, stop⟩ := exists_key (stops c rfl) differs tail
    refine ⟨lead, key, after ++ rest, ?_, blank, isKey, ?_⟩
    · rw [same, word]
      simp
    · obtain ends' | equals := stop
      · exact ends_append ends' ends
      · rw [word] at noEquals
        exact absurd (List.mem_append_right _ (List.mem_of_mem_head? equals)) noEquals

/-! ## A row -/

theorem rowText_eq_spaced (fields : List (String × String)) :
    rowText fields = spaced (fields.map writtenField) := rfl

section

variable {fields : List (String × String)}

theorem broken_rowText (data : String) (lead : List Char) (blank : ∀ c ∈ lead, isBlank c = true)
    (keys : ∀ field ∈ fields, IsKey field.1)
    (unreadable : ∃ field ∈ fields, ∃ c ∈ lost field.2, isBlank c = false) :
    ∃ fault, Broken data (lead ++ (spaced (fields.map writtenField)).toList) fault := by
  induction fields generalizing lead with
  | nil =>
    obtain ⟨_, mem, _⟩ := unreadable
    cases mem
  | cons field fields ih =>
    obtain ⟨isKey, keys⟩ := List.forall_mem_cons.mp keys
    obtain ⟨between, space, ends, row⟩ :=
      exists_after (writtenField field) (fields.map writtenField)
    obtain ⟨text, written, isField⟩ := writtenAs_writtenField isKey _ ends
    rw [List.map_cons, row, written, List.append_assoc text]
    -- the first field that loses more than blanks breaks the row; those before it only widen `lead`
    by_cases trail : ∀ c ∈ lost field.2, isBlank c = true
    · have later : ∃ field ∈ fields, ∃ c ∈ lost field.2, isBlank c = false := by
        obtain ⟨other, mem, c, within, dark⟩ := unreadable
        obtain rfl | mem := List.mem_cons.mp mem
        · rw [trail c within] at dark
          cases dark
        · exact ⟨other, mem, c, within, dark⟩
      obtain ⟨fault, more⟩ := ih (lost field.2 ++ between)
        (List.forall_mem_append.mpr ⟨trail, space⟩) keys later
      rw [List.append_assoc] at more
      exact ⟨fault, .later blank isField more⟩
    · have visible : ∃ c ∈ lost field.2, isBlank c = false := by simpa using trail
      obtain ⟨front, key, after, same, white, isWord, stop⟩ := exists_valueless visible ends
      have more : Broken data (front ++ (key.toList ++ after)) _ := .valueless white isWord stop
      rw [← same] at more
      exact ⟨_, .later blank isField more⟩

theorem parse_rowText_iff (keys : ∀ field ∈ fields, IsKey field.1) (m : Fields) :
    Fields.parse (rowText fields) = .ok m ↔
      (∀ field ∈ fields, ∀ c ∈ lost field.2, isBlank c = true) ∧
        m = .ofPairs (fields.map shownField) := by
  rw [rowText_eq_spaced]
  by_cases readable : ∀ field ∈ fields, ∀ c ∈ lost field.2, isBlank c = true
  · have written : ∀ field ∈ fields, WrittenAs (writtenField field) (lost field.2) (shownField field) :=
      fun field mem => writtenAs_writtenField (keys field mem)
    have spelled := spelled_spaced [] (by simp) written readable
    rw [Fields.parse_of_spelled spelled, and_iff_right readable]
    exact ⟨fun same => (Except.ok.inj same).symm, fun same => congrArg _ same.symm⟩
  · have unreadable : ∃ field ∈ fields, ∃ c ∈ lost field.2, isBlank c = false := by
      simpa using readable
    obtain ⟨fault, broken⟩ := broken_rowText _ [] (by simp) keys unreadable
    rw [Fields.parse_of_broken broken]
    exact iff_of_false (fun failed => nomatch failed) (fun both => readable both.1)

/-! ### Its ends -/

theorem head?_rowText {field : String × String} (isKey : IsKey field.1) :
    ∃ c, (rowText (field :: fields)).toList.head? = some c ∧ isBlank c = false := by
  obtain ⟨c, starts, dark⟩ := head?_of_isKey isKey ("=" ++ valueText field.2)
  rw [← String.append_assoc] at starts
  exact ⟨c, head?_spaced starts (fields.map writtenField), dark⟩

theorem getLast?_valueText {v : String} (survives : Survives v) :
    ∃ c, (valueText v).toList.getLast? = some c ∧ isBlank c = false := by
  rw [valueText_eq]
  split
  · exact ⟨'\x27', getLast?_quote v, by decide⟩
  · rename_i plain
    have nonempty : v.toList ≠ [] := fun empty => plain (.inl (String.toList_eq_nil_iff.mp empty))
    have dark := survives.resolve_left plain
    exact ⟨_, List.getLast?_eq_some_getLast nonempty, dark _ (List.getLast_mem nonempty)⟩

theorem trimmed_rowText (keys : ∀ field ∈ fields, IsKey field.1)
    (survives : ∀ field ∈ fields.getLast?, Survives field.2) :
    trimmed (rowText fields) = rowText fields := by
  rw [rowText_eq_spaced]
  apply trimmed_spaced
  · intro part first
    rw [List.head?_map] at first
    obtain ⟨field, listed, rfl⟩ := Option.map_eq_some_iff.mp first
    rw [writtenField, String.append_assoc]
    exact head?_of_isKey (keys field (List.mem_of_mem_head? listed)) _
  · intro part last
    rw [List.getLast?_map] at last
    obtain ⟨field, listed, rfl⟩ := Option.map_eq_some_iff.mp last
    obtain ⟨c, ends, dark⟩ := getLast?_valueText (survives field listed)
    refine ⟨c, ?_, dark⟩
    rw [writtenField, String.toList_append, List.getLast?_append, ends]
    rfl

end

/-! ## A job -/

def mapTexts (f : String → String) (job : Snapshot) : Snapshot :=
  { job with
    uuid := f job.uuid
    masterName := f job.masterName
    name := f job.name
    slaveHost := { job.slaveHost with name := f job.slaveHost.name }
    deltaCompressAlgorithm := f job.deltaCompressAlgorithm
    byteCompressAlgorithm := f job.byteCompressAlgorithm
    cryptAlgorithm := f job.cryptAlgorithm
    cryptType := f job.cryptType
    cryptPasswordMode := f job.cryptPasswordMode }

def texts (job : Snapshot) : List String :=
  [job.uuid, job.masterName, job.name, job.slaveHost.name, job.deltaCompressAlgorithm,
    job.byteCompressAlgorithm, job.cryptAlgorithm, job.cryptType, job.cryptPasswordMode]

theorem mapTexts_eq_self_iff (f : String → String) (job : Snapshot) :
    mapTexts f job = job ↔ ∀ text ∈ texts job, f text = text := by
  obtain ⟨_, _, _, _, ⟨_, _⟩, _, _, _, _, _, _, _, _, _, _, _⟩ := job
  simp [mapTexts, texts]

def jobKeys : List String := (jobFields {}).map Prod.fst

theorem map_fst_jobFields (job : Snapshot) : (jobFields job).map Prod.fst = jobKeys := rfl

theorem isKey_of_mem_jobFields {job : Snapshot} : ∀ field ∈ jobFields job, IsKey field.1 := by
  have keys : ∀ key ∈ jobKeys, IsKey key := by decide
  intro field mem
  apply keys
  rw [← map_fst_jobFields job]
  exact List.mem_map_of_mem mem

theorem dark_yesNo (b : Bool) : ∀ c ∈ (yesNo b).toList, isBlank c = false := by
  cases b <;> exact dark_of_all rfl

theorem forall_mem_jobFields {P : String → Prop}
    (ofDark : ∀ v : String, (∀ c ∈ v.toList, isBlank c = false) → P v) {job : Snapshot}
    (ofTexts : ∀ text ∈ texts job, P text) : ∀ field ∈ jobFields job, P field.2 := by
  have state : P job.state.wireName := ofDark _ (State.dark_wireName _)
  have slaveState : P job.slaveState.wireName := ofDark _ (SlaveState.dark_wireName _)
  have archiveType : P job.archiveType.name := ofDark _ (ArchiveType.dark_name _)
  have secure : P (yesNo job.slaveSecure) := ofDark _ (dark_yesNo _)
  have number (n : Nat) : P (toString n) := ofDark _ (dark_toString n)
  have executed : P (toString job.lastExecutedAt.toInt) := ofDark _ (dark_toString_int _)
  simp only [texts, List.forall_mem_cons] at ofTexts
  obtain ⟨uuid, master, name, host, delta, byte, algorithm, type, mode, _⟩ := ofTexts
  simp only [jobFields, List.forall_mem_cons]
  exact ⟨uuid, master, name, state, host, number _, slaveState, secure, archiveType, number _, delta,
    byte, algorithm, type, mode, executed, number _, by simp⟩

theorem map_shownField_jobFields (job : Snapshot) :
    (jobFields job).map shownField = jobFields (mapTexts shown job) := by
  have same {v : String} (dark : ∀ c ∈ v.toList, isBlank c = false) : shown v = v :=
    (shown_eq_self_iff v).mpr (.inr dark)
  simp only [jobFields, mapTexts, shownField, List.map_cons, List.map_nil,
    same (dark_toString _), same (dark_toString_int _), same (dark_yesNo _),
    same (State.dark_wireName _), same (SlaveState.dark_wireName _), same (ArchiveType.dark_name _)]

theorem parse_jobRow_iff (job : Snapshot) (m : Fields) :
    Fields.parse (jobRow job) = .ok m ↔
      (∀ field ∈ jobFields job, ∀ c ∈ lost field.2, isBlank c = true) ∧
        m = .ofPairs (jobFields (mapTexts shown job)) := by
  rw [jobRow, parse_rowText_iff isKey_of_mem_jobFields, map_shownField_jobFields]

theorem trimmed_jobRow (job : Snapshot) : trimmed (jobRow job) = jobRow job := by
  have survives : Survives (toString job.estimatedRestSeconds.toNat) := .inr (dark_toString _)
  apply trimmed_rowText isKey_of_mem_jobFields
  intro field last
  have last : field = ("estimatedRestTime", toString job.estimatedRestSeconds.toNat) :=
    (Option.some.inj last).symm
  rw [last]
  exact survives

/-! ### Its typed fields -/

section

variable {m : Fields} {key value : String}

theorem string_of_get? (found : m.get? key = some value) (default : String) :
    m.string key default = value := by
  rw [Fields.string, found, Option.getD_some]

theorem parsed?_of_get? {α : Type} {read : List Char → Option α} (found : m.get? key = some value)
    (dark : ∀ c ∈ value.toList, isBlank c = false) : m.parsed? read key = read value.toList := by
  rw [Fields.parsed?, found, Option.bind_some, trim_of_dark dark]

theorem boolean_yesNo {b : Bool} (found : m.get? key = some (yesNo b)) (default : Bool) :
    m.boolean key default = b := by
  rw [Fields.boolean, found]
  cases b <;> rfl

end

theorem ofFields_jobFields (job : Snapshot) :
    Snapshot.ofFields (.ofPairs (jobFields job)) = .ok job := by
  generalize row : Fields.ofPairs (jobFields job) = m
  have found (key value : String) (found : (Fields.ofPairs (jobFields job)).get? key = some value) :
      m.get? key = some value := row ▸ found
  have present : m.require ["jobUUID"] = .ok () := by
    simp [Fields.require, Fields.contains, found "jobUUID" job.uuid rfl]
  have state : m.parsed? State.ofText? "state" = some job.state := by
    rw [parsed?_of_get? (found _ _ rfl) job.state.dark_wireName, State.ofText?_wireName]
  have port : m.parsed? readUInt16 "slaveHostPort" = some job.slaveHost.port := by
    rw [parsed?_of_get? (found _ _ rfl) (dark_toString _), toList_toString, readUInt16_toDigits]
  have slaveState : m.parsed? SlaveState.ofText? "slaveState" = some job.slaveState := by
    rw [parsed?_of_get? (found _ _ rfl) job.slaveState.dark_wireName, SlaveState.ofText?_wireName]
  have archiveType : m.parsed? ArchiveType.ofText? "archiveType" = some job.archiveType := by
    rw [parsed?_of_get? (found _ _ rfl) job.archiveType.dark_name, ArchiveType.ofText?_name]
  have partSize : m.parsed? readUInt64 "archivePartSize" = some job.archivePartSize := by
    rw [parsed?_of_get? (found _ _ rfl) (dark_toString _), toList_toString, readUInt64_toDigits]
  have executed : m.parsed? readInt64 "lastExecutedDateTime" = some job.lastExecutedAt := by
    rw [parsed?_of_get? (found _ _ rfl) (dark_toString_int _), readInt64_toString]
  have remaining : m.parsed? readUInt64 "estimatedRestTime" = some job.estimatedRestSeconds := by
    rw [parsed?_of_get? (found _ _ rfl) (dark_toString _), toList_toString, readUInt64_toDigits]
  simp only [Snapshot.ofFields, present, Fields.enumeration, Fields.ulong, Fields.long, state, port,
    slaveState, archiveType, partSize, executed, remaining, Option.getD_some,
    boolean_yesNo (found "slaveTLS" _ rfl), string_of_get? (found "jobUUID" _ rfl),
    string_of_get? (found "master" _ rfl), string_of_get? (found "name" _ rfl),
    string_of_get? (found "slaveHostName" _ rfl),
    string_of_get? (found "deltaCompressAlgorithm" _ rfl),
    string_of_get? (found "byteCompressAlgorithm" _ rfl),
    string_of_get? (found "cryptAlgorithm" _ rfl), string_of_get? (found "cryptType" _ rfl),
    string_of_get? (found "cryptPasswordMode" _ rfl)]

/-! ### On a line and back -/

/-- What a job is read as from the result line that it is written on. -/
def reread (id : UInt64) (job : Snapshot) : Except Fault Snapshot :=
  (ResultLine.parse (ResultLine.mk id false 0 (jobRow job)).encode).bind fun line =>
    (Fields.parse line.data).bind Snapshot.ofFields

theorem reread_eq (id : UInt64) (job : Snapshot) :
    reread id job = (Fields.parse (jobRow job)).bind Snapshot.ofFields := by
  rw [reread, ResultLine.parse_encode, trimmed_jobRow]
  simp only [Except.bind]

theorem reread_eq_ok_iff_lost (id : UInt64) (job other : Snapshot) :
    reread id job = .ok other ↔
      (∀ field ∈ jobFields job, ∀ c ∈ lost field.2, isBlank c = true) ∧ other = mapTexts shown job := by
  rw [reread_eq]
  constructor
  · intro read
    cases parsed : Fields.parse (jobRow job) with
    | error fault =>
      rw [parsed] at read
      cases read
    | ok m =>
      obtain ⟨readable, rfl⟩ := (parse_jobRow_iff job m).mp parsed
      rw [parsed] at read
      have same := read.symm.trans (ofFields_jobFields (mapTexts shown job))
      exact ⟨readable, Except.ok.inj same⟩
  · rintro ⟨readable, rfl⟩
    rw [(parse_jobRow_iff job _).mpr ⟨readable, rfl⟩]
    exact ofFields_jobFields (mapTexts shown job)

/-- A job is read as it was written exactly if each of its texts is written between quotes or has no
blank in it. -/
theorem reread_eq_ok_iff (id : UInt64) (job : Snapshot) :
    reread id job = .ok job ↔ ∀ text ∈ texts job, Survives text := by
  have unchanged : job = mapTexts shown job ↔ ∀ text ∈ texts job, Survives text := by
    rw [eq_comm, mapTexts_eq_self_iff]
    exact forall₂_congr fun text _ => shown_eq_self_iff text
  rw [reread_eq_ok_iff_lost, unchanged, and_iff_right_iff_imp]
  intro survive field mem
  rw [lost_of_survives (forall_mem_jobFields (fun _ => .inr) survive field mem)]
  exact fun c absent => nomatch absent

def tabbed : Snapshot := { uuid := "a", name := "al\tpha" }

/-- The tab is no reason to write quotes, but it ends the name when the row is read. -/
theorem not_reread_tabbed : ¬∃ other, reread 0 tabbed = .ok other := by
  rintro ⟨other, read⟩
  have readable := ((reread_eq_ok_iff_lost 0 tabbed other).mp read).1
  have lost : 'p' ∈ lost "al\tpha" := by decide
  exact absurd (readable ("name", "al\tpha") (by decide) 'p' lost) (by decide)

end BackupConsole.Simulation
