import BackupConsole.Job.Schedule
import BackupConsole.Proofs.Wire.RequestLine

set_option autoImplicit false

namespace BackupConsole.Job

open Text Number

/-! ## Numbers with zeros in front -/

theorem isDigit_of_mem_padded {width n : Nat} : ∀ c ∈ padded width n, c.isDigit = true := by
  intro c mem
  obtain zero | digit := List.mem_append.mp mem
  · rw [List.eq_of_mem_replicate zero]
    decide
  · exact Nat.isDigit_of_mem_toDigits (by decide) (by decide) digit

theorem dark_padded (width n : Nat) : ∀ c ∈ padded width n, isBlank c = false :=
  fun c mem => isBlank_of_isDigit (isDigit_of_mem_padded c mem)

theorem readNat_padded (width n : Nat) : readNat (padded width n) = some n := by
  have digits : (padded width n).all Char.isDigit = true :=
    List.all_eq_true.mpr isDigit_of_mem_padded
  have nonempty : (padded width n).isEmpty = false := by
    simp [Number.padded, Nat.toDigits_ne_nil]
  have value : Nat.ofDigitChars 10 (padded width n) 0 = n := by
    simp [Number.padded, Nat.ofDigitChars_append, Nat.ofDigitChars_toDigits]
  unfold readNat
  split
  · next rest signed =>
    have sign : '+' ∈ padded width n := by rw [signed]; exact List.mem_cons_self
    exact absurd (isDigit_of_mem_padded _ sign) (by decide)
  · simp [readDigits, digits, nonempty, value]

/-! ## Parts of a date or a time -/

theorem dark_partText (width : Nat) (part : Option UInt32) :
    ∀ c ∈ partText width part, isBlank c = false := by
  cases part with
  | none => exact List.forall_mem_singleton.mpr (by decide)
  | some n => exact dark_padded width n.toNat

theorem not_mem_partText {c : Char} (digit : c.isDigit = false) (star : c ≠ '*') (width : Nat)
    (part : Option UInt32) : c ∉ partText width part := by
  intro mem
  cases part with
  | none => exact star (List.mem_singleton.mp mem)
  | some n => exact Bool.false_ne_true (digit.symm.trans (isDigit_of_mem_padded c mem))

theorem readPart_partText (width : Nat) (part : Option UInt32) :
    readPart (partText width part) = part := by
  rw [readPart, trim_of_dark (dark_partText width part)]
  cases part with
  | none => exact (by decide : readUInt32 ['*'] = none)
  | some n =>
    have fits : readBelow UInt32.size (padded width n.toNat) = some n.toNat := by
      simp [readBelow, readNat_padded, n.toNat_lt]
    rw [partText, readUInt32, fits, Option.map_some, UInt32.ofNat_toNat]

namespace Schedule

variable (s : Schedule)

theorem parts_dateText :
    (pieces '-' s.dateText.toList).map readPart = [s.year, s.month, s.day] := by
  have absent := not_mem_partText (c := '-') (by decide) (by decide)
  rw [dateText, String.toList_ofList, List.append_assoc, List.cons_append,
    pieces_append_cons (absent 4 s.year), pieces_append_cons (absent 2 s.month),
    pieces_of_not_mem (absent 2 s.day)]
  simp only [List.map_cons, List.map_nil, readPart_partText]

theorem parts_timeText : (pieces ':' s.timeText.toList).map readPart = [s.hour, s.minute] := by
  have absent := not_mem_partText (c := ':') (by decide) (by decide)
  rw [timeText, String.toList_ofList, pieces_append_cons (absent 2 s.hour),
    pieces_of_not_mem (absent 2 s.minute)]
  simp only [List.map_cons, List.map_nil, readPart_partText]

theorem dark_dateText : ∀ c ∈ s.dateText.toList, isBlank c = false := by
  simp only [dateText, String.toList_ofList, List.forall_mem_append, List.forall_mem_cons]
  exact ⟨⟨dark_partText 4 s.year, by decide, dark_partText 2 s.month⟩, by decide,
    dark_partText 2 s.day⟩

theorem dark_timeText : ∀ c ∈ s.timeText.toList, isBlank c = false := by
  simp only [timeText, String.toList_ofList, List.forall_mem_append, List.forall_mem_cons]
  exact ⟨dark_partText 2 s.hour, by decide, dark_partText 2 s.minute⟩

end Schedule

/-! ## Sets of week days -/

structure SomeDays (days : UInt8) : Prop where
  nonempty : days ≠ 0
  within : days ||| everyDay = everyDay

/-- Either no days are named, or some of the seven are, but not all. -/
def Distinguished (weekDays : Option UInt8) : Prop :=
  ∀ days ∈ weekDays, SomeDays days ∧ days ≠ everyDay

theorem SomeDays.or {day days : UInt8} (named : SomeDays day) (within : days ||| everyDay = everyDay) :
    SomeDays (day ||| days) where
  nonempty := fun none => named.nonempty (UInt8.or_eq_zero_iff.mp none).1
  within := by rw [UInt8.or_assoc, within, named.within]

theorem someDays_of_weekDay? {name : List Char} {day : UInt8} (found : weekDay? name = some day) :
    SomeDays day := by
  obtain ⟨bit, place, rfl⟩ := Option.map_eq_some_iff.mp found
  obtain ⟨inside, _⟩ := List.findIdx?_eq_some_iff_getElem.mp place
  have bits : ∀ bit < weekDayNames.length, UInt8.ofNat (Nat.pow 2 bit) ≠ 0 ∧
      UInt8.ofNat (Nat.pow 2 bit) ||| everyDay = everyDay := by decide
  exact ⟨(bits bit inside).1, (bits bit inside).2⟩

theorem someDays_of_weekDaySet {names : List (List Char)} {days : UInt8}
    (read : weekDaySet names = .ok days) :
    days ||| everyDay = everyDay ∧ (names ≠ [] → SomeDays days) := by
  induction names generalizing days with
  | nil =>
    cases read
    exact ⟨rfl, fun nonempty => absurd rfl nonempty⟩
  | cons name names ih =>
    rw [weekDaySet] at read
    cases first : weekDay? (trim name) with
    | none => simp [first] at read
    | some day =>
      cases rest : weekDaySet names with
      | error fault => simp [first, rest] at read
      | ok others =>
        simp only [first, rest, Except.ok.injEq] at read
        subst read
        have both := (someDays_of_weekDay? first).or (ih rest).1
        exact ⟨both.within, fun _ => both⟩

theorem distinguished_of_readWeekDays {text : String} {weekDays : Option UInt8}
    (read : readWeekDays text = .ok weekDays) : Distinguished weekDays := by
  unfold readWeekDays at read
  dsimp only at read
  split at read
  · cases read
    exact nofun
  · split at read
    · cases read
    · rename_i days set
      cases read
      have named := (someDays_of_weekDaySet set).2 (pieces_ne_nil ',' _)
      split
      · exact nofun
      · rename_i part
        intro _ same
        cases same
        exact ⟨named, part⟩

/-! ## Lists of week days -/

def markedDays (days : UInt8) : List (String × Nat) :=
  weekDayNames.zipIdx.filter fun (_, bit) => days.toNat.testBit bit

def setOf (marked : List (String × Nat)) : UInt8 :=
  marked.foldr (fun day days => UInt8.ofNat (Nat.pow 2 day.2) ||| days) 0

theorem setOf_markedDays {days : UInt8} (within : days ||| everyDay = everyDay) :
    setOf (markedDays days) = days := by
  have all : ∀ n < 256, UInt8.ofNat n ||| everyDay = everyDay →
      setOf (markedDays (UInt8.ofNat n)) = UInt8.ofNat n := by decide +kernel
  have same := all days.toNat days.toNat_lt
  rw [UInt8.ofNat_toNat] at same
  exact same within

theorem weekDaySet_marked {marked : List (String × Nat)} (known : marked ⊆ weekDayNames.zipIdx) :
    weekDaySet (marked.map fun day => day.1.toList) = .ok (setOf marked) := by
  have days : ∀ day ∈ weekDayNames.zipIdx,
      weekDay? (trim day.1.toList) = some (UInt8.ofNat (Nat.pow 2 day.2)) := by decide
  induction marked with
  | nil => rfl
  | cons day marked ih =>
    obtain ⟨first, known⟩ := List.cons_subset.mp known
    rw [List.map_cons, weekDaySet, days day first, ih known]
    rfl

def listed (days : UInt8) : String := ",".intercalate ((markedDays days).map Prod.fst)

theorem Schedule.weekDaysText_eq (s : Schedule) : s.weekDaysText = s.weekDays.elim "*" listed := by
  unfold weekDaysText
  cases s.weekDays <;> rfl

theorem mem_weekDayNames {days : UInt8} {name : String}
    (mem : name ∈ (markedDays days).map Prod.fst) : name ∈ weekDayNames := by
  obtain ⟨day, chosen, rfl⟩ := List.mem_map.mp mem
  exact List.fst_mem_of_mem_zipIdx (List.mem_of_mem_filter chosen)

theorem dark_listed (days : UInt8) : ∀ c ∈ (listed days).toList, isBlank c = false := by
  have names : ∀ name ∈ weekDayNames, (name.toList.all fun c => !isBlank c) = true := by decide
  exact forall_mem_intercalate (dark_of_all rfl) fun name mem =>
    dark_of_all (names name (mem_weekDayNames mem))

theorem Schedule.dark_weekDaysText (s : Schedule) : ∀ c ∈ s.weekDaysText.toList, isBlank c = false := by
  rw [weekDaysText_eq]
  cases s.weekDays with
  | none => exact dark_of_all rfl
  | some days => exact dark_listed days

theorem parts_listed {days : UInt8} (named : SomeDays days) :
    pieces ',' (listed days).toList = (markedDays days).map fun day => day.1.toList := by
  have names : ∀ name ∈ weekDayNames, ',' ∉ name.toList := by decide
  rw [listed, pieces_intercalate rfl, List.map_map]
  · rfl
  · intro empty
    have none := setOf_markedDays named.within
    rw [List.map_eq_nil_iff.mp empty] at none
    exact named.nonempty none.symm
  · exact fun name mem => names name (mem_weekDayNames mem)

theorem listed_ne {days : UInt8} (named : SomeDays days) :
    (listed days).toList ≠ [] ∧ (listed days).toList ≠ ['*'] := by
  have known : ∀ part ∈ pieces ',' (listed days).toList, part ∈ weekDayNames.map String.toList := by
    intro part mem
    rw [parts_listed named] at mem
    obtain ⟨day, chosen, rfl⟩ := List.mem_map.mp mem
    exact List.mem_map_of_mem (mem_weekDayNames (List.mem_map_of_mem chosen))
  constructor
  · intro empty
    exact absurd (known [] (by rw [empty]; exact List.mem_singleton_self _)) (by decide)
  · intro star
    exact absurd (known ['*'] (by rw [star]; exact List.mem_singleton_self _)) (by decide)

theorem readWeekDays_listed {days : UInt8} (named : SomeDays days) (part : days ≠ everyDay) :
    readWeekDays (listed days) = .ok (some days) := by
  have names : markedDays days ⊆ weekDayNames.zipIdx := List.filter_subset_self _
  rw [readWeekDays, trim_of_dark (dark_listed days), parts_listed named, weekDaySet_marked names,
    setOf_markedDays named.within]
  simp [listed_ne named, part]

theorem Schedule.readWeekDays_weekDaysText (s : Schedule) (distinguished : Distinguished s.weekDays) :
    readWeekDays s.weekDaysText = .ok s.weekDays := by
  rw [weekDaysText_eq]
  cases set : s.weekDays with
  | none => rfl
  | some days =>
    obtain ⟨named, part⟩ := distinguished days set
    exact readWeekDays_listed named part

end BackupConsole.Job
