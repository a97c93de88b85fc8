import BackupConsole.Proofs.Job.Schedule
import BackupConsole.Proofs.Simulation.Rows

set_option autoImplicit false

namespace BackupConsole.Simulation

open Text Wire Job

def scheduleFields (s : Schedule) : List (String × String) :=
  [("scheduleUUID", s.uuid), ("date", s.dateText), ("weekDays", s.weekDaysText),
    ("time", s.timeText), ("archiveType", s.archiveType.name)]

theorem scheduleRow_eq (s : Schedule) : scheduleRow s = rowText (scheduleFields s) := rfl

theorem isKey_of_mem_scheduleFields {s : Schedule} : ∀ field ∈ scheduleFields s, IsKey field.1 := by
  simp only [scheduleFields, List.forall_mem_cons]
  decide

theorem forall_mem_scheduleFields {P : String → Prop}
    (ofDark : ∀ v : String, (∀ c ∈ v.toList, isBlank c = false) → P v) {s : Schedule}
    (uuid : P s.uuid) : ∀ field ∈ scheduleFields s, P field.2 := by
  simp only [scheduleFields, List.forall_mem_cons]
  exact ⟨uuid, ofDark _ s.dark_dateText, ofDark _ s.dark_weekDaysText, ofDark _ s.dark_timeText,
    ofDark _ s.archiveType.dark_name, by simp⟩

theorem map_shownField_scheduleFields (s : Schedule) :
    (scheduleFields s).map shownField = scheduleFields { s with uuid := shown s.uuid } := by
  have same {v : String} (dark : ∀ c ∈ v.toList, isBlank c = false) : shown v = v :=
    (shown_eq_self_iff v).mpr (.inr dark)
  simp only [scheduleFields, shownField, List.map_cons, List.map_nil, same s.dark_dateText,
    same s.dark_weekDaysText, same s.dark_timeText, same s.archiveType.dark_name]
  rfl

theorem parse_scheduleRow_iff (s : Schedule) (m : Fields) :
    Fields.parse (scheduleRow s) = .ok m ↔
      (∀ c ∈ lost s.uuid, isBlank c = true) ∧
        m = .ofPairs (scheduleFields { s with uuid := shown s.uuid }) := by
  rw [scheduleRow_eq, parse_rowText_iff isKey_of_mem_scheduleFields, map_shownField_scheduleFields]
  have whole {v : String} (dark : ∀ c ∈ v.toList, isBlank c = false) :
      ∀ c ∈ lost v, isBlank c = true := by
    rw [lost_of_survives (.inr dark)]
    exact fun _ absent => nomatch absent
  refine and_congr_left fun _ => ⟨fun all => ?_, fun uuid => ?_⟩
  · exact all ("scheduleUUID", s.uuid) List.mem_cons_self
  · exact forall_mem_scheduleFields (P := fun v => ∀ c ∈ lost v, isBlank c = true) (fun _ => whole) uuid

theorem ofFields_scheduleFields (s : Schedule) (distinguished : Distinguished s.weekDays) :
    Schedule.ofFields (.ofPairs (scheduleFields s)) = .ok s := by
  generalize row : Fields.ofPairs (scheduleFields s) = m
  have found (key value : String) (found : (Fields.ofPairs (scheduleFields s)).get? key = some value) :
      m.get? key = some value := row ▸ found
  have present : m.require ["scheduleUUID"] = .ok () := by
    simp [Fields.require, Fields.contains, found "scheduleUUID" s.uuid rfl]
  have archiveType : m.parsed? ArchiveType.ofText? "archiveType" = some s.archiveType := by
    rw [parsed?_of_get? (found _ _ rfl) s.archiveType.dark_name, ArchiveType.ofText?_name]
  simp only [Schedule.ofFields, present, string_of_get? (found "scheduleUUID" _ rfl),
    string_of_get? (found "date" _ rfl), string_of_get? (found "time" _ rfl),
    string_of_get? (found "weekDays" _ rfl), s.parts_dateText, s.parts_timeText,
    s.readWeekDays_weekDaysText distinguished, Fields.enumeration, archiveType, Option.getD_some]
  rfl

theorem distinguished_of_ofFields {m : Fields} {s : Schedule} (read : Schedule.ofFields m = .ok s) :
    Distinguished s.weekDays := by
  unfold Schedule.ofFields at read
  split at read
  · cases read
  · dsimp only at read
    split at read
    · cases read
    · rename_i weekDays days
      cases read
      exact distinguished_of_readWeekDays days

def rereadSchedule (s : Schedule) : Except Fault Schedule :=
  (Fields.parse (scheduleRow s)).bind Schedule.ofFields

theorem rereadSchedule_eq_ok_iff {s : Schedule} (distinguished : Distinguished s.weekDays)
    (other : Schedule) :
    rereadSchedule s = .ok other ↔
      (∀ c ∈ lost s.uuid, isBlank c = true) ∧ other = { s with uuid := shown s.uuid } := by
  rw [rereadSchedule]
  constructor
  · intro read
    cases parsed : Fields.parse (scheduleRow s) with
    | error fault =>
      rw [parsed] at read
      cases read
    | ok m =>
      obtain ⟨readable, rfl⟩ := (parse_scheduleRow_iff s m).mp parsed
      rw [parsed] at read
      have same := read.symm.trans
        (ofFields_scheduleFields { s with uuid := shown s.uuid } distinguished)
      exact ⟨readable, Except.ok.inj same⟩
  · rintro ⟨readable, rfl⟩
    rw [(parse_scheduleRow_iff s _).mpr ⟨readable, rfl⟩]
    exact ofFields_scheduleFields { s with uuid := shown s.uuid } distinguished

/-- A schedule that has been read is read again as it is exactly if its UUID is, and so if the UUID
has no blanks but spaces. -/
theorem schedules_reread {m : Fields} {s : Schedule} (read : Schedule.ofFields m = .ok s) :
    (rereadSchedule s = .ok s ↔ Survives s.uuid) ∧
      ((∀ c ∈ s.uuid.toList, isBlank c = true → c = ' ') → rereadSchedule s = .ok s) := by
  have exact_iff : rereadSchedule s = .ok s ↔ Survives s.uuid := by
    rw [rereadSchedule_eq_ok_iff (distinguished_of_ofFields read), ← shown_eq_self_iff]
    constructor
    · rintro ⟨_, same⟩
      exact (congrArg Schedule.uuid same).symm
    · intro same
      rw [lost_of_survives ((shown_eq_self_iff s.uuid).mp same), same]
      exact ⟨fun _ absent => (nomatch absent), rfl⟩
  exact ⟨exact_iff, fun plain => exact_iff.mpr (survives_of_spaces plain)⟩

def looseSchedule : Fields :=
  .ofPairs [("scheduleUUID", "it's s\\1 "), ("date", "-+05- 007 -x"), ("weekDays", " sun , MON,mon "),
    ("time", "7"), ("archiveType", " Full ")]

theorem loose_reread :
    let s : Schedule :=
      { uuid := "it's s\\1 ", month := some 5, day := some 7, weekDays := some 65, hour := some 7
        archiveType := .full }
    Schedule.ofFields looseSchedule = .ok s ∧ rereadSchedule s = .ok s := by
  intro s
  have read : Schedule.ofFields looseSchedule = .ok s := by decide +kernel
  have spaces : (s.uuid.toList.all fun c => !isBlank c || c == ' ') = true := by decide
  have plain : ∀ c ∈ s.uuid.toList, isBlank c = true → c = ' ' := by
    intro c mem blank
    simpa [blank] using List.all_eq_true.mp spaces c mem
  exact ⟨read, (schedules_reread read).2 plain⟩

end BackupConsole.Simulation
