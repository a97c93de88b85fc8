import BackupConsole.Proofs.Polling.Cycle
import BackupConsole.Proofs.Simulation.Transport

set_option autoImplicit false

namespace BackupConsole.Simulation

open Job Wire Polling Text

structure SimJob.Told (job : SimJob) : Prop where
  texts : ∀ text ∈ texts job.snapshot, Survives text
  storage : Survives ("/backup/" ++ job.snapshot.name ++ ".bar")
  overrides : job.overrides = []

/-- The server answers what it is asked, and the job `uuid` has these schedules. -/
structure Server.Works (uuid : String) (schedules : List Schedule) (s : Server) : Prop where
  online : s.offline = false
  uninjected : s.injections = []
  told : ∀ job ∈ s.jobs, job.Told
  known : ∃ job, s.findJob? uuid = some job ∧ job.schedules = schedules

/-! ## Rows that can be read -/

def Readable (row : String) : Prop := ∃ m, Fields.parse (trimmed row) = .ok m

theorem outcome_deliver {rows : List String} (readable : ∀ row ∈ rows, Readable row) :
    (Server.deliver rows).outcome = .ok () := by
  induction rows with
  | nil => rfl
  | cons row rows ih =>
    obtain ⟨⟨m, parsed⟩, rest⟩ := List.forall_mem_cons.mp readable
    rw [deliver_of_fields parsed]
    exact ih rest

theorem parse_rowText {fields : List (String × String)} (keys : ∀ field ∈ fields, IsKey field.1)
    (survive : ∀ field ∈ fields, Survives field.2) :
    Fields.parse (trimmed (rowText fields)) = .ok (.ofPairs fields) := by
  have ends : ∀ field ∈ fields.getLast?, Survives field.2 := fun field last =>
    survive field (List.mem_of_getLast? last)
  have whole : fields.map shownField = fields := by
    refine (List.map_congr_left fun field mem => ?_).trans (List.map_id fields)
    rw [shownField, (shown_eq_self_iff field.2).mpr (survive field mem), id]
  rw [trimmed_rowText keys ends]
  refine (parse_rowText_iff keys _).mpr ⟨fun field mem => ?_, by rw [whole]⟩
  rw [lost_of_survives (survive field mem)]
  exact fun c absent => absurd absent List.not_mem_nil

theorem valueText_toString (n : Nat) : valueText (toString n) = toString n := by
  have plain : ¬Quoted (toString n) := by
    rintro (empty | ⟨c, mem, special⟩)
    · rw [← String.toList_eq_nil_iff, toList_toString] at empty
      exact absurd empty Nat.toDigits_ne_nil
    · rw [toList_toString] at mem
      have digit := Nat.isDigit_of_mem_toDigits (by decide) (by decide) mem
      simp only [needsQuotes, Bool.or_eq_true, decide_eq_true_eq] at special
      obtain (((rfl | rfl) | rfl) | rfl) | rfl := special <;> exact absurd digit (by decide)
  rw [valueText_eq, if_neg plain]

def stateFields : RunState → List (String × String)
  | .running => [("state", "running")]
  | .paused remaining => [("state", "pause"), ("time", toString remaining.toNat)]
  | .suspended => [("state", "suspended")]

theorem runStateRow_eq (state : RunState) : runStateRow state = rowText (stateFields state) := by
  cases state with
  | running | suspended => decide
  | paused remaining =>
    have text : valueText "pause" = "pause" := by decide
    simp only [stateFields, rowText, List.map_cons, List.map_nil, text, valueText_toString]
    rfl

theorem parse_runStateRow (state : RunState) :
    Fields.parse (trimmed (runStateRow state)) = .ok (.ofPairs (stateFields state)) := by
  have word {v : String} (dark : (v.toList.all fun c => !isBlank c) = true) : Survives v :=
    .inr (dark_of_all dark)
  rw [runStateRow_eq]
  apply parse_rowText
  · cases state <;> simp only [stateFields, List.forall_mem_cons] <;> decide
  · cases state with
    | running | suspended => exact List.forall_mem_singleton.mpr (word rfl)
    | paused remaining =>
      exact List.forall_mem_cons.mpr ⟨word rfl,
        List.forall_mem_singleton.mpr (.inr (dark_toString _))⟩

theorem parse_jobRow {job : Snapshot} (survive : ∀ text ∈ texts job, Survives text) :
    Fields.parse (trimmed (jobRow job)) = .ok (.ofPairs (jobFields job)) :=
  parse_rowText isKey_of_mem_jobFields (forall_mem_jobFields (fun _ => .inr) survive)

namespace SimJob.Told

variable {job : SimJob}

theorem readable_jobRow (told : job.Told) : Readable (jobRow job.snapshot) :=
  ⟨_, parse_jobRow told.texts⟩

theorem readable_detailRow (told : job.Told) : Readable (detailRow job) := by
  have keys : ∀ key ∈ progressKeys, IsKey key := by decide
  rw [detailRow, told.overrides, List.foldl_nil]
  refine ⟨_, parse_rowText (fun field mem => keys _ ?_)
    (forall_mem_progressFields (fun _ => .inr) told.storage)⟩
  rw [← map_fst_progressFields job]
  exact List.mem_map_of_mem mem

theorem advance (told : job.Told) (now : Int64) : (job.advance now).Told := by
  unfold SimJob.advance
  split
  · dsimp only
    split <;> exact ⟨told.texts, told.storage, told.overrides⟩
  · exact told

end SimJob.Told

/-! ## The server after a call -/

theorem SimJob.uuid_advance (now : Int64) (job : SimJob) :
    (job.advance now).snapshot.uuid = job.snapshot.uuid := by
  unfold advance
  split
  · dsimp only
    split <;> rfl
  · rfl

theorem SimJob.schedules_advance (now : Int64) (job : SimJob) :
    (job.advance now).schedules = job.schedules := by
  unfold advance
  split
  · dsimp only
    split <;> rfl
  · rfl

namespace Server

theorem answer_of_reply {now : Int64} {s after : Server} {r : Request} {rows : List String}
    (online : s.offline = false) (uninjected : s.injections = [])
    (reply : s.reply now r = .ok (rows, after)) : s.answer now r = (deliver rows, after) := by
  rw [answer_eq online uninjected, Server.after, reply, delivered]

section

variable {uuid : String} {job other : SimJob}

theorem mem_setFirst {jobs : List SimJob} (mem : other ∈ setFirst uuid job jobs) :
    other = job ∨ other ∈ jobs := by
  induction jobs with
  | nil => exact absurd mem List.not_mem_nil
  | cons first rest ih =>
    rw [setFirst] at mem
    split at mem
    · exact (List.mem_cons.mp mem).imp_right (List.mem_cons_of_mem first)
    · obtain rfl | mem := List.mem_cons.mp mem
      · exact .inr List.mem_cons_self
      · exact (ih mem).imp_right (List.mem_cons_of_mem first)

theorem findJob?_setJob {s : Server} (found : s.findJob? uuid = some other)
    (own : job.snapshot.uuid = uuid) : (s.setJob uuid job).findJob? uuid = some job := by
  obtain ⟨jobs, _, _, _, _⟩ := s
  change jobs.find? _ = _ at found
  change (setFirst uuid job jobs).find? _ = _
  induction jobs with
  | nil => cases found
  | cons first rest ih =>
    rw [setFirst]
    by_cases same : first.snapshot.uuid = uuid
    · rw [if_pos same, List.find?_cons_of_pos (by simpa using own)]
    · rw [List.find?_cons_of_neg (by simpa using same)] at found
      rw [if_neg same, List.find?_cons_of_neg (by simpa using same), ih found]

end

theorem onJob_of_found {s : Server} {r : Request} {job other : SimJob} {rows : List String}
    {act : SimJob → Except Rejection (List String × SimJob)}
    (found : s.findJob? (jobUUID r) = some job) (acts : act job = .ok (rows, other)) :
    s.onJob r act = .ok (rows, s.setJob (jobUUID r) other) := by
  rw [onJob]
  rw [found]
  dsimp only
  rw [acts]

theorem findJob?_map {f : SimJob → SimJob} (own : ∀ job, (f job).snapshot.uuid = job.snapshot.uuid)
    (s : Server) (uuid : String) :
    ({ s with jobs := s.jobs.map f } : Server).findJob? uuid = (s.findJob? uuid).map f := by
  rw [findJob?, findJob?, List.find?_map]
  congr 2
  funext job
  rw [Function.comp_apply, own]

end Server

theorem Server.reply_status (now : Int64) (s : Server) (uuid : String) :
    s.reply now (statusCall uuid).request =
      { s with commands := s.commands ++ [(statusCall uuid).request.text] }.onJob
        (statusCall uuid).request fun job => .ok ([jobRow job.snapshot], job) := rfl

theorem Server.reply_detail (now : Int64) (s : Server) (uuid : String) :
    s.reply now (detailCall uuid).request =
      { s with commands := s.commands ++ [(detailCall uuid).request.text] }.onJob
        (detailCall uuid).request fun job =>
          let job := if s.runState = RunState.running then job.advance now else job
          .ok ([detailRow job], job) := rfl

namespace Server.Works

variable {uuid : String} {schedules : List Schedule} {s : Server}

theorem logged (works : s.Works uuid schedules) (commands : List String) :
    Works uuid schedules { s with commands } :=
  ⟨works.online, works.uninjected, works.told, works.known⟩

theorem status (works : s.Works uuid schedules) (now : Int64) :
    (s.status now).Works uuid schedules := by
  obtain ⟨job, found, rfl⟩ := works.known
  unfold Server.status
  dsimp only
  split
  · refine ⟨works.online, works.uninjected, ?_, job.advance now, ?_, job.schedules_advance now⟩
    · exact List.forall_mem_map.mpr fun job mem => (works.told job mem).advance now
    · have moved := findJob?_map (SimJob.uuid_advance now) s uuid
      rw [found] at moved
      exact moved
  · exact ⟨works.online, works.uninjected, works.told, job, found, rfl⟩

theorem setJob (works : s.Works uuid schedules) {job : SimJob} (told : job.Told)
    (own : job.snapshot.uuid = uuid) (same : job.schedules = schedules) :
    (s.setJob uuid job).Works uuid schedules := by
  obtain ⟨_, found, _⟩ := works.known
  refine ⟨works.online, works.uninjected, ?_, job, findJob?_setJob found own, same⟩
  intro other mem
  obtain rfl | mem := mem_setFirst mem
  · exact told
  · exact works.told other mem

theorem answers (works : s.Works uuid schedules) (now : Int64) {call : Call}
    (polls : call ∈ [listCall, stateCall, statusCall uuid, detailCall uuid]) :
    (s.answer now call.request).1.outcome = .ok () ∧
      (s.answer now call.request).2.Works uuid schedules := by
  obtain ⟨rows, after, reply, readable, works'⟩ : ∃ rows after,
      s.reply now call.request = .ok (rows, after) ∧ (∀ row ∈ rows, Readable row) ∧
        after.Works uuid schedules := by
    obtain ⟨job, found, same⟩ := works.known
    have own : job.snapshot.uuid = uuid := by simpa using List.find?_some found
    have told := works.told job (List.mem_of_find?_eq_some found)
    simp only [List.mem_cons, List.not_mem_nil, or_false] at polls
    obtain rfl | rfl | rfl | rfl := polls
    · refine ⟨_, _, rfl, List.forall_mem_map.mpr fun job mem => ?_, works.logged _⟩
      exact (works.told job mem).readable_jobRow
    · refine ⟨_, _, rfl, List.forall_mem_singleton.mpr ⟨_, parse_runStateRow _⟩, ?_⟩
      exact (works.logged _).status now
    · refine ⟨_, _, (reply_status now s uuid).trans (onJob_of_found found rfl), ?_, ?_⟩
      · exact List.forall_mem_singleton.mpr told.readable_jobRow
      · exact (works.logged _).setJob told own same
    · refine ⟨_, _, (reply_detail now s uuid).trans (onJob_of_found found rfl), ?_, ?_⟩
      · refine List.forall_mem_singleton.mpr (SimJob.Told.readable_detailRow ?_)
        split
        · exact told.advance now
        · exact told
      · split
        · exact (works.logged _).setJob (told.advance now) ((job.uuid_advance now).trans own)
            ((job.schedules_advance now).trans same)
        · exact (works.logged _).setJob told own same
  rw [answer_of_reply works.online works.uninjected reply]
  exact ⟨outcome_deliver readable, works'⟩

end Server.Works

end BackupConsole.Simulation
