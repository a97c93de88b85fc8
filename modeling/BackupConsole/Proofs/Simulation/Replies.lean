import BackupConsole.Proofs.Job.Schedule
import BackupConsole.Proofs.Simulation.Rows
import BackupConsole.Proofs.Text.OneLine
import BackupConsole.Simulation.Server

set_option autoImplicit false

namespace BackupConsole.Simulation

open Text Wire Job Number

/-- No text of the job that its rows are made of has a line feed. -/
structure SimJob.OneLined (job : SimJob) : Prop where
  texts : ∀ text ∈ texts job.snapshot, OneLine text
  overrides : ∀ field ∈ job.overrides, OneLine field.1 ∧ OneLine field.2
  schedules : ∀ schedule ∈ job.schedules, OneLine schedule.uuid

def Server.OneLined (s : Server) : Prop := ∀ job ∈ s.jobs, job.OneLined

structure Framed (row : String) : Prop where
  single : OneLine row
  visible : trimmed row ≠ ""

/-- A reply that can be written on result lines. -/
inductive Speaks {α : Type} : Except Rejection (List String × α) → Prop where
  | rows {rows : List String} {after : α} (framed : ∀ row ∈ rows, Framed row) :
      Speaks (.ok (rows, after))
  | rejection {rejection : Rejection} (code : rejection.code ≠ 0) (single : OneLine rejection.data) :
      Speaks (.error rejection)

theorem Speaks.silent {α : Type} {after : α} : Speaks (.ok ([], after)) :=
  .rows fun _ mem => absurd mem List.not_mem_nil

/-! ## Rows -/

theorem oneLine_quote {v : String} (single : OneLine v) : OneLine (quote v) := by
  intro mem
  rw [quote, String.toList_ofList, List.mem_cons, List.mem_append, List.mem_flatMap] at mem
  obtain mark | ⟨c, within, mem⟩ | mark := mem
  · exact absurd mark (by decide)
  · split at mem
    · obtain slash | same := List.mem_pair.mp mem
      · exact absurd slash (by decide)
      · exact single (same ▸ within)
    · exact single (List.mem_singleton.mp mem ▸ within)
  · exact absurd mark (by decide)

theorem oneLine_writtenField {field : String × String} (key : OneLine field.1)
    (value : OneLine field.2) : OneLine (writtenField field) := by
  have text : OneLine (valueText field.2) := by
    rw [valueText_eq]
    split
    · exact oneLine_quote value
    · exact value
  exact (key.append (by decide)).append text

theorem framed_rowText {fields : List (String × String)} {key value : String}
    {rest : List (String × String)} (starts : fields = (key, value) :: rest) (isKey : IsKey key)
    (single : ∀ field ∈ fields, OneLine field.1 ∧ OneLine field.2) : Framed (rowText fields) := by
  subst starts
  obtain ⟨c, head, dark⟩ :
      ∃ c, (rowText ((key, value) :: rest)).toList.head? = some c ∧ isBlank c = false :=
    head?_rowText isKey
  refine ⟨oneLine_intercalate (by decide) ?_, trimmed_ne_empty (List.mem_of_mem_head? head) dark⟩
  intro part mem
  obtain ⟨field, listed, rfl⟩ := List.mem_map.mp mem
  exact oneLine_writtenField (single field listed).1 (single field listed).2

theorem framed_jobRow {job : Snapshot} (single : ∀ text ∈ texts job, OneLine text) :
    Framed (jobRow job) := by
  have keys : ∀ key ∈ jobKeys, OneLine key := by decide
  have values := forall_mem_jobFields oneLine_of_dark single
  apply framed_rowText (by rfl) (by decide : IsKey "jobUUID")
  intro field mem
  refine ⟨keys _ ?_, values field mem⟩
  rw [← map_fst_jobFields job]
  exact List.mem_map_of_mem mem

theorem framed_runStateRow (state : RunState) : Framed (runStateRow state) := by
  cases state with
  | running => exact ⟨by decide, by decide⟩
  | suspended => exact ⟨by decide, by decide⟩
  | paused remaining =>
    have word : OneLine "state=pause time=" := by decide
    have letter : 's' ∈ (runStateRow (.paused remaining)).toList := by
      change 's' ∈ ("state=pause time=" ++ toString remaining.toNat).toList
      rw [String.toList_append]
      exact List.mem_append_left _ (by decide)
    exact ⟨word.append (oneLine_toString _), trimmed_ne_empty letter (by decide)⟩

theorem framed_scheduleRow {s : Schedule} (single : OneLine s.uuid) : Framed (scheduleRow s) := by
  have date := oneLine_of_dark _ s.dark_dateText
  have weekDays := oneLine_of_dark _ s.dark_weekDaysText
  have time := oneLine_of_dark _ s.dark_timeText
  have type := oneLine_of_dark _ s.archiveType.dark_name
  apply framed_rowText (by rfl) (by decide : IsKey "scheduleUUID")
  simp only [List.forall_mem_cons]
  exact ⟨⟨by decide, single⟩, ⟨by decide, date⟩, ⟨by decide, weekDays⟩,
    ⟨by decide, time⟩, ⟨by decide, type⟩, by simp⟩

/-! ### Progress -/

def progressKeys : List String := (progressFields (SimJob.new "" "" .none)).map Prod.fst

theorem map_fst_progressFields (job : SimJob) :
    (progressFields job).map Prod.fst = progressKeys := by
  simp only [progressKeys, progressFields, List.map_cons, List.map_nil]

theorem forall_mem_progressFields {P : String → Prop}
    (ofDark : ∀ v : String, (∀ c ∈ v.toList, isBlank c = false) → P v) {job : SimJob}
    (storage : P ("/backup/" ++ job.snapshot.name ++ ".bar")) :
    ∀ field ∈ progressFields job, P field.2 := by
  have state : P job.snapshot.state.wireName := ofDark _ (State.dark_wireName _)
  have number (n : Nat) : P (toString n) := ofDark _ (dark_toString n)
  have plain {v : String} (dark : (v.toList.all fun c => !isBlank c) = true) : P v :=
    ofDark v (dark_of_all dark)
  have rate (perStep : Nat) : P (if job.isActive then toString perStep else "0") := by
    split
    · exact number perStep
    · exact plain rfl
  have ratio : P (if 0 < job.doneCount * entrySize then "50.0" else "0") := by
    split <;> exact plain rfl
  have entry : P (if job.isActive then
      "/home/user/file-" ++ String.ofList (padded 4 job.doneCount) ++ ".dat" else "") := by
    split
    · refine ofDark _ ?_
      simp only [String.toList_append, String.toList_ofList, List.forall_mem_append]
      exact ⟨⟨dark_of_all rfl, dark_padded 4 job.doneCount⟩, dark_of_all rfl⟩
    · exact plain rfl
  simp only [progressFields, List.forall_mem_cons]
  exact ⟨state, plain rfl, number _, number _, number _, number _, plain rfl, plain rfl, plain rfl,
    plain rfl, plain rfl, rate _, rate _, rate _, number _, ratio, number _, entry, number _, number _,
    storage, number _, number _, number _, plain rfl, number _, by simp⟩

theorem oneLine_progressFields {job : SimJob} (name : OneLine job.snapshot.name) :
    ∀ field ∈ progressFields job, OneLine field.1 ∧ OneLine field.2 := by
  have keys : ∀ key ∈ progressKeys, OneLine key := by decide
  have folder : OneLine "/backup/" := by decide
  have storage := (folder.append name).append (by decide : OneLine ".bar")
  intro field mem
  refine ⟨keys _ ?_, forall_mem_progressFields oneLine_of_dark storage field mem⟩
  rw [← map_fst_progressFields job]
  exact List.mem_map_of_mem mem

theorem forall_mem_setField {P : String × String → Prop} {fields : List (String × String)}
    {field : String × String} (all : ∀ other ∈ fields, P other) (new : P field) :
    ∀ other ∈ setField fields field, P other := by
  induction fields with
  | nil => simpa [setField] using new
  | cons first rest ih =>
    obtain ⟨own, others⟩ := List.forall_mem_cons.mp all
    rw [setField]
    split
    · exact List.forall_mem_cons.mpr ⟨new, others⟩
    · exact List.forall_mem_cons.mpr ⟨own, ih others⟩

theorem exists_foldl_setField (overrides : List (String × String)) {key value : String}
    {rest : List (String × String)} :
    ∃ value' rest', overrides.foldl setField ((key, value) :: rest) = (key, value') :: rest' := by
  induction overrides generalizing value rest with
  | nil => exact ⟨value, rest, rfl⟩
  | cons field overrides ih =>
    rw [List.foldl_cons, setField]
    split
    · rename_i same
      obtain ⟨other, new⟩ := field
      obtain rfl : key = other := same
      exact ih
    · exact ih

theorem framed_detailRow {job : SimJob} (lined : job.OneLined) : Framed (detailRow job) := by
  have name : OneLine job.snapshot.name := lined.texts _ (by simp [texts])
  have single : ∀ field ∈ job.overrides.foldl setField (progressFields job),
      OneLine field.1 ∧ OneLine field.2 := by
    have start := oneLine_progressFields name
    have overrides := lined.overrides
    generalize progressFields job = fields at start
    generalize job.overrides = given at overrides
    induction given generalizing fields with
    | nil => exact start
    | cons field given ih =>
      obtain ⟨first, overrides⟩ := List.forall_mem_cons.mp overrides
      exact ih _ (forall_mem_setField start first) overrides
  obtain ⟨value, rest, starts⟩ : ∃ value rest,
      job.overrides.foldl setField (progressFields job) = ("state", value) :: rest :=
    exists_foldl_setField job.overrides
  exact framed_rowText starts (by decide) single

/-! ## Commands -/

theorem oneLine_name_args {r : Request} (single : OneLine r.text) :
    OneLine r.name ∧ ∀ arg ∈ r.args, OneLine arg.2 := by
  obtain ⟨name, args⟩ := r
  unfold Request.text at single
  dsimp only at *
  induction args generalizing name with
  | nil => exact ⟨single, by simp⟩
  | cons arg args ih =>
    obtain ⟨named, rest⟩ := ih _ single
    simp only [oneLine_append_iff] at named
    exact ⟨named.1.1.1.1, List.forall_mem_cons.mpr ⟨named.2, rest⟩⟩

theorem oneLine_getD {r : Request} (single : OneLine r.text) (key default : String)
    (other : OneLine default) : OneLine ((r.get? key).getD default) := by
  cases found : r.get? key with
  | none => exact other
  | some value =>
    obtain ⟨before, after, args, _⟩ := List.lookup_eq_some_iff.mp found
    have mem : (key, value) ∈ r.args := by simp [args]
    exact (oneLine_name_args single).2 _ mem

theorem oneLined_advance {job : SimJob} (lined : job.OneLined) (now : Int64) :
    (job.advance now).OneLined := by
  unfold SimJob.advance
  split
  · dsimp only
    split <;> exact ⟨lined.texts, lined.overrides, lined.schedules⟩
  · exact lined

/-! ### What commands do to one job -/

section

variable {job : SimJob}

theorem SimJob.OneLined.name (lined : job.OneLined) : OneLine job.snapshot.name :=
  lined.texts _ (by simp [Simulation.texts])

theorem speaks_triggerJob (lined : job.OneLined) {schedule : String} (single : OneLine schedule) :
    Speaks (Server.triggerJob job schedule) := by
  unfold Server.triggerJob
  split
  · exact .rejection (by simp) single
  · split
    · exact .rejection (by simp) lined.name
    · exact .silent

theorem speaks_startJob (lined : job.OneLined) (type : ArchiveType) (noStorage dryRun : Bool) :
    Speaks (Server.startJob job type noStorage dryRun) := by
  unfold Server.startJob
  split
  · exact .rejection (by simp) lined.name
  · split
    · exact .rejection (by simp) lined.name
    · exact .silent

theorem speaks_abortJob (lined : job.OneLined) : Speaks (Server.abortJob job) := by
  unfold Server.abortJob
  split
  · exact .silent
  · exact .rejection (by simp) lined.name

theorem speaks_resetJob (lined : job.OneLined) : Speaks (Server.resetJob job) := by
  unfold Server.resetJob
  split
  · exact .rejection (by simp) lined.name
  · exact .silent

theorem speaks_loadVolume (job : SimJob) (number : UInt32) :
    Speaks (Server.loadVolume job number) := by
  unfold Server.loadVolume
  split
  · exact .rejection (by simp)
      ((by decide : OneLine "volume ").append (oneLine_toString _))
  · exact .silent

theorem speaks_info (lined : job.OneLined) (now : Int64) (running : Prop) [Decidable running] :
    Speaks (.ok ([detailRow (if running then job.advance now else job)],
      if running then job.advance now else job)) := by
  refine .rows (List.forall_mem_singleton.mpr (framed_detailRow ?_))
  split
  · exact oneLined_advance lined now
  · exact lined

theorem speaks_schedules (lined : job.OneLined) :
    Speaks (.ok (job.schedules.map scheduleRow, job)) := by
  apply Speaks.rows
  intro row mem
  obtain ⟨schedule, listed, rfl⟩ := List.mem_map.mp mem
  exact framed_scheduleRow (lined.schedules schedule listed)

end

/-! ### All commands -/

section

variable {s : Server} {r : Request}

theorem speaks_onJob (lined : s.OneLined) (single : OneLine r.text)
    {act : SimJob → Except Rejection (List String × SimJob)}
    (acts : ∀ job, job.OneLined → Speaks (act job)) : Speaks (s.onJob r act) := by
  unfold Server.onJob
  dsimp only
  split
  · exact .rejection (by simp) (oneLine_getD single _ _ (by decide))
  · rename_i job found
    have speaks := acts job (lined job (List.mem_of_find?_eq_some found))
    split
    · rename_i rejection rejected
      rw [rejected] at speaks
      cases speaks with
      | rejection code data => exact .rejection code data
    · rename_i rows after accepted
      rw [accepted] at speaks
      cases speaks with
      | rows framed => exact .rows framed

theorem speaks_list (lined : s.OneLined) :
    Speaks (.ok (s.jobs.map fun job => jobRow job.snapshot, s)) := by
  apply Speaks.rows
  intro row mem
  obtain ⟨job, listed, rfl⟩ := List.mem_map.mp mem
  exact framed_jobRow (lined job listed).texts

theorem speaks_handle (now : Int64) (lined : s.OneLined) (single : OneLine r.text) :
    Speaks (s.handle now r) := by
  unfold Server.handle
  split
  · exact speaks_list lined
  · exact .rows (List.forall_mem_singleton.mpr (framed_runStateRow _))
  · apply speaks_onJob lined single
    exact fun job lined => .rows (List.forall_mem_singleton.mpr (framed_jobRow lined.texts))
  · exact speaks_onJob lined single fun job lined => speaks_info lined now _
  · exact speaks_onJob lined single fun job lined => speaks_schedules lined
  · apply speaks_onJob lined single
    exact fun job lined => speaks_triggerJob lined (oneLine_getD single _ _ (by decide))
  · have word := oneLine_getD single "archiveType" "normal" (by decide)
    dsimp only
    generalize (r.get? "archiveType").getD "normal" = type at word
    cases ArchiveType.ofText? type.toList with
    | none =>
      have text : OneLine "unknown archive type '" := by decide
      exact .rejection (by simp) ((text.append word).append (by decide : OneLine "'"))
    | some archiveType =>
      exact speaks_onJob lined single fun job lined => speaks_startJob lined archiveType _ _
  · exact speaks_onJob lined single fun job lined => speaks_abortJob lined
  · exact speaks_onJob lined single fun job lined => speaks_resetJob lined
  · split
    · exact .rejection (by decide) (by decide)
    · split
      · exact .rejection (by decide) (by decide)
      · exact .silent
  · exact .silent
  · exact .silent
  · split
    · exact .rejection (by decide) (by decide)
    · exact speaks_onJob lined single fun job _ => speaks_loadVolume job _
  · exact speaks_onJob lined single fun job _ => .silent
  · split
    · exact .rejection (by decide) (by decide)
    · split
      · exact .rejection (by decide) (by decide)
      · exact speaks_onJob lined single fun job _ => .silent
  · exact .rejection (by simp) (oneLine_name_args single).1

end

end BackupConsole.Simulation
