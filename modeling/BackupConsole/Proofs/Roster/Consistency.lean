import BackupConsole.Roster
import Mathlib.Data.List.Nodup
import Mathlib.Data.List.Perm.Basic

set_option autoImplicit false

namespace BackupConsole

open Job

namespace Roster

/-- List and map agree on which handles there are and which UUIDs they show. -/
structure Consistent (r : Roster) : Prop where
  distinct : (r.jobs.map Snapshot.uuid).Nodup
  mapped : r.byUuid.Perm (r.handles.map fun h => ((r.read h).uuid, h))
  allocated : ∀ h ∈ r.handles, h.cell < r.cells.length

theorem lookup_eq_some_iff_mem {α β : Type} [DecidableEq α] {l : List (α × β)}
    (nodup : (l.map Prod.fst).Nodup) {a : α} {b : β} : l.lookup a = some b ↔ (a, b) ∈ l := by
  induction l with
  | nil => simp
  | cons entry l ih =>
    obtain ⟨key, value⟩ := entry
    rw [List.map_cons, List.nodup_cons] at nodup
    by_cases same : a = key
    · subst same
      have absent : (a, b) ∉ l := fun mem => nodup.1 (List.mem_map.mpr ⟨_, mem, rfl⟩)
      simp [absent, eq_comm]
    · have other : (a == key) = false := beq_eq_false_iff_ne.mpr same
      rw [List.lookup_cons, other]
      simpa [same] using ih nodup.2

theorem contains_iff_mem_uuids (r : Roster) (uuid : String) :
    r.contains uuid = true ↔ uuid ∈ r.uuids := by
  unfold contains get? uuids
  rw [List.lookup_isSome_iff, List.mem_map]
  constructor
  · rintro ⟨entry, mem, same⟩
    exact ⟨entry, mem, (beq_iff_eq.mp same).symm⟩
  · rintro ⟨entry, mem, same⟩
    exact ⟨entry, mem, beq_iff_eq.mpr same.symm⟩

theorem get?_eq_none_iff (r : Roster) (uuid : String) :
    r.get? uuid = none ↔ uuid ∉ r.uuids := by
  rw [← contains_iff_mem_uuids, contains]
  cases r.get? uuid <;> simp

namespace Consistent

variable {r : Roster}

theorem uuids_perm (consistent : r.Consistent) : r.uuids.Perm (r.jobs.map Snapshot.uuid) := by
  have h := consistent.mapped.map Prod.fst
  simpa [uuids, jobs, Function.comp_def] using h

theorem nodup_uuids (consistent : r.Consistent) : r.uuids.Nodup :=
  consistent.uuids_perm.nodup_iff.mpr consistent.distinct

/-- The map finds a handle exactly under the UUID that it shows. -/
theorem get?_eq_some_iff (consistent : r.Consistent) {uuid : String} {h : Handle} :
    r.get? uuid = some h ↔ h ∈ r.handles ∧ (r.read h).uuid = uuid := by
  have nodup := consistent.nodup_uuids
  rw [get?, lookup_eq_some_iff_mem nodup, consistent.mapped.mem_iff, List.mem_map]
  constructor
  · rintro ⟨k, mem, same⟩
    obtain ⟨rfl, rfl⟩ := Prod.mk.inj same
    exact ⟨mem, rfl⟩
  · rintro ⟨mem, rfl⟩
    exact ⟨h, mem, rfl⟩

theorem mem_uuids_iff (consistent : r.Consistent) {uuid : String} :
    uuid ∈ r.uuids ↔ ∃ h ∈ r.handles, (r.read h).uuid = uuid := by
  rw [consistent.uuids_perm.mem_iff, jobs, List.map_map, List.mem_map]
  rfl

theorem congr (consistent : r.Consistent) {next : Roster} (handles : next.handles = r.handles)
    (byUuid : next.byUuid = r.byUuid) (cells : r.cells.length ≤ next.cells.length)
    (uuid : ∀ h ∈ r.handles, (next.read h).uuid = (r.read h).uuid) : next.Consistent := by
  have jobs : next.jobs.map Snapshot.uuid = r.jobs.map Snapshot.uuid := by
    simp only [Roster.jobs, List.map_map, handles]
    exact List.map_congr_left uuid
  have entries : next.handles.map (fun h => ((next.read h).uuid, h)) =
      r.handles.map (fun h => ((r.read h).uuid, h)) := by
    rw [handles]
    exact List.map_congr_left fun h mem => by rw [uuid h mem]
  refine ⟨?_, ?_, ?_⟩
  · rw [jobs]
    exact consistent.distinct
  · rw [byUuid, entries]
    exact consistent.mapped
  · intro h mem
    rw [handles] at mem
    exact Nat.lt_of_lt_of_le (consistent.allocated h mem) cells

theorem read_update (consistent : r.Consistent) (job : Snapshot) (h : Handle) :
    (r.update job).read h = if r.get? job.uuid = some h then job else r.read h := by
  unfold update
  cases found : r.get? job.uuid with
  | none => simp
  | some k =>
    by_cases same : k = h
    · subst same
      have mem := (consistent.get?_eq_some_iff.mp found).1
      simp [read_write_self r job (consistent.allocated k mem)]
    · simp [read_write_of_ne r job same, same]

theorem uuid_read_update (consistent : r.Consistent) (job : Snapshot) (h : Handle) :
    ((r.update job).read h).uuid = (r.read h).uuid := by
  rw [consistent.read_update]
  split
  · rename_i found
    exact (consistent.get?_eq_some_iff.mp found).2.symm
  · rfl

theorem update (consistent : r.Consistent) (job : Snapshot) : (r.update job).Consistent := by
  refine consistent.congr (handles_update r job) (byUuid_update r job) ?_ ?_
  · unfold Roster.update
    split <;> simp
  · exact fun h _ => consistent.uuid_read_update job h

theorem uuids_jobs_update (consistent : r.Consistent) (job : Snapshot) :
    (r.update job).jobs.map Snapshot.uuid = r.jobs.map Snapshot.uuid := by
  rw [jobs, jobs, List.map_map, List.map_map, handles_update]
  exact List.map_congr_left fun h _ => consistent.uuid_read_update job h

theorem of_mem_jobs_update (consistent : r.Consistent) {job row : Snapshot}
    (mem : row ∈ (r.update job).jobs) : row = job ∨ row ∈ r.jobs ∧ row.uuid ≠ job.uuid := by
  obtain ⟨h, listed, rfl⟩ := List.mem_map.mp mem
  rw [handles_update] at listed
  rw [consistent.read_update]
  split
  · exact .inl rfl
  · rename_i other
    refine .inr ⟨List.mem_map_of_mem listed, fun same => other ?_⟩
    exact consistent.get?_eq_some_iff.mpr ⟨listed, same⟩

end Consistent

theorem consistent_of_handles_eq_nil {r : Roster} (handles : r.handles = [])
    (byUuid : r.byUuid = []) : r.Consistent :=
  ⟨by simp [jobs, handles], by simp [handles, byUuid], by simp [handles]⟩

theorem consistent_renew (r : Roster) : r.renew.Consistent :=
  consistent_of_handles_eq_nil rfl rfl

end Roster

end BackupConsole
