import BackupConsole.Proofs.Roster.Consistency
import Mathlib.Data.List.Basic
import Mathlib.Tactic.ByContra

set_option autoImplicit false

namespace BackupConsole

open Job

/-- The first job of each UUID, in the order in which the UUIDs appear first. -/
def firstPerUuid : List Snapshot → List Snapshot
  | [] => []
  | job :: jobs => job :: (firstPerUuid jobs).filter fun other => other.uuid != job.uuid

theorem mem_uuids_firstPerUuid (jobs : List Snapshot) (uuid : String) :
    uuid ∈ (firstPerUuid jobs).map Snapshot.uuid ↔ uuid ∈ jobs.map Snapshot.uuid := by
  induction jobs with
  | nil => rfl
  | cons job jobs ih =>
    simp only [List.mem_map] at ih
    simp only [firstPerUuid, List.map_cons, List.mem_cons, List.mem_map, List.mem_filter,
      bne_iff_ne, ne_eq, ← ih]
    constructor
    · rintro (same | ⟨other, ⟨mem, _⟩, same⟩)
      · exact Or.inl same
      · exact Or.inr ⟨other, mem, same⟩
    · rintro (same | ⟨other, mem, same⟩)
      · exact Or.inl same
      · by_cases again : uuid = job.uuid
        · exact Or.inl again
        · exact Or.inr ⟨other, ⟨mem, fun e => again (same.symm.trans e)⟩, same⟩

theorem nodup_uuids_firstPerUuid (jobs : List Snapshot) :
    ((firstPerUuid jobs).map Snapshot.uuid).Nodup := by
  induction jobs with
  | nil => exact List.nodup_nil
  | cons job jobs ih =>
    rw [firstPerUuid, List.map_cons, List.nodup_cons]
    refine ⟨?_, (List.filter_sublist.map _).nodup ih⟩
    intro mem
    obtain ⟨other, kept, same⟩ := List.mem_map.mp mem
    simp [same] at kept

theorem firstPerUuid_of_nodup {jobs : List Snapshot} (nodup : (jobs.map Snapshot.uuid).Nodup) :
    firstPerUuid jobs = jobs := by
  induction jobs with
  | nil => rfl
  | cons job jobs ih =>
    obtain ⟨fresh, nodup⟩ := List.nodup_cons.mp nodup
    rw [firstPerUuid, ih nodup, List.filter_eq_self.mpr]
    intro other mem
    have differs : other.uuid ≠ job.uuid := fun same => fresh (List.mem_map.mpr ⟨other, mem, same⟩)
    exact bne_iff_ne.mpr differs

theorem mem_firstPerUuid_iff (jobs : List Snapshot) (job : Snapshot) :
    job ∈ firstPerUuid jobs ↔ jobs.find? (fun other => other.uuid == job.uuid) = some job := by
  induction jobs with
  | nil => simp [firstPerUuid]
  | cons first jobs ih =>
    by_cases same : first.uuid = job.uuid
    · simp [firstPerUuid, same, eq_comm]
    · have other : (first.uuid == job.uuid) = false := beq_eq_false_iff_ne.mpr same
      have ne : job ≠ first := fun e => same (by rw [e])
      rw [List.find?_cons, other, ← ih]
      simp [firstPerUuid, ne, Ne.symm same]

theorem firstPerUuid_concat (seen : List Snapshot) (job : Snapshot) :
    firstPerUuid (seen ++ [job]) =
      if job.uuid ∈ seen.map Snapshot.uuid then firstPerUuid seen
      else firstPerUuid seen ++ [job] := by
  induction seen with
  | nil => simp [firstPerUuid]
  | cons first seen ih =>
    rw [List.cons_append, firstPerUuid, ih, List.map_cons]
    by_cases again : job.uuid = first.uuid
    · have metNow : job.uuid ∈ first.uuid :: seen.map Snapshot.uuid :=
        List.mem_cons.mpr (Or.inl again)
      rw [if_pos metNow]
      split <;> simp [firstPerUuid, again]
    · by_cases met : job.uuid ∈ seen.map Snapshot.uuid
      · rw [if_pos met, if_pos (List.mem_cons_of_mem _ met)]
        rfl
      · have unmet : job.uuid ∉ first.uuid :: seen.map Snapshot.uuid := by
          rw [List.mem_cons, not_or]
          exact ⟨again, met⟩
        rw [if_neg met, if_neg unmet]
        simp [firstPerUuid, again]

namespace Roster

/-- The state `built` of a new list for the roster `r` after the jobs `seen`. -/
structure Building (r : Roster) (seen : List Snapshot) (built : Change × Roster) : Prop where
  listed : built.2.jobs = firstPerUuid seen
  mapped : built.2.byUuid.Perm (built.2.handles.map fun h => ((built.2.read h).uuid, h))
  allocated : ∀ h ∈ built.2.handles, h.cell < built.2.cells.length
  grown : r.cells.length ≤ built.2.cells.length
  kept : ∀ h ∈ built.2.handles, h.cell < r.cells.length →
    r.get? (built.2.read h).uuid = some h
  fresh : ∀ h ∈ built.2.handles, r.cells.length ≤ h.cell → (built.2.read h).uuid ∉ r.uuids
  spared : ∀ h : Handle, h.cell < r.cells.length → h ∉ built.2.handles →
    built.2.read h = r.read h
  added : built.1.added = (built.2.uuids.filter fun uuid => !r.contains uuid).length
  updated : built.1.updated = (built.2.uuids.filter r.contains).length

/-- The cells `next` of the list `b` under construction, with the next job behind the handle `h`, which
is not on that list yet. -/
structure Prepared (r b : Roster) (job : Snapshot) (next : Roster) (h : Handle) : Prop where
  handles : next.handles = b.handles
  byUuid : next.byUuid = b.byUuid
  grown : b.cells.length ≤ next.cells.length
  inside : h.cell < next.cells.length
  shown : next.read h = job
  others : ∀ k : Handle, k.cell < b.cells.length → k ≠ h → next.read k = b.read k
  absent : h ∉ b.handles
  kept : h.cell < r.cells.length → r.get? job.uuid = some h
  fresh : r.cells.length ≤ h.cell → job.uuid ∉ r.uuids

theorem building_renew (r : Roster) : Building r [] (⟨0, 0, 0⟩, r.renew) where
  listed := rfl
  mapped := List.Perm.refl _
  allocated := by simp [renew]
  grown := Nat.le_refl _
  kept := by simp [renew]
  fresh := by simp [renew]
  spared := fun _ _ _ => rfl
  added := rfl
  updated := rfl

namespace Building

variable {r : Roster} {seen : List Snapshot} {built : Change × Roster}

theorem consistent (inv : Building r seen built) : built.2.Consistent where
  distinct := by
    rw [inv.listed]
    exact nodup_uuids_firstPerUuid seen
  mapped := inv.mapped
  allocated := inv.allocated

theorem contains_iff (inv : Building r seen built) (uuid : String) :
    built.2.contains uuid = true ↔ uuid ∈ seen.map Snapshot.uuid := by
  rw [contains_iff_mem_uuids, inv.consistent.uuids_perm.mem_iff, inv.listed,
    mem_uuids_firstPerUuid]

theorem append (inv : Building r seen built) {job : Snapshot} {next : Roster} {h : Handle}
    {count : Change} (unseen : job.uuid ∉ seen.map Snapshot.uuid)
    (prepared : Prepared r built.2 job next h)
    (added : count.added = built.1.added + if r.contains job.uuid then 0 else 1)
    (updated : count.updated = built.1.updated + if r.contains job.uuid then 1 else 0) :
    Building r (seen ++ [job]) (count, next.append job.uuid h) := by
  have unchanged : ∀ k ∈ built.2.handles, next.read k = built.2.read k := fun k mem =>
    prepared.others k (inv.allocated k mem) fun e => prepared.absent (e ▸ mem)
  have list : (next.append job.uuid h).handles = built.2.handles ++ [h] := by
    rw [← prepared.handles]
    rfl
  have either : ∀ k ∈ (next.append job.uuid h).handles, k ∈ built.2.handles ∨ k = h := by
    simp [list]
  constructor
  · rw [firstPerUuid_concat, if_neg unseen, ← inv.listed, jobs, list, List.map_append, jobs]
    congr 1
    · exact List.map_congr_left unchanged
    · simp [prepared.shown]
  · change ((job.uuid, h) :: next.byUuid).Perm _
    rw [list, List.map_append, prepared.byUuid]
    have entries : built.2.handles.map (fun k => (((next.append job.uuid h).read k).uuid, k)) =
        built.2.handles.map (fun k => ((built.2.read k).uuid, k)) :=
      List.map_congr_left fun k mem => by rw [read_append, unchanged k mem]
    have last : [h].map (fun k => (((next.append job.uuid h).read k).uuid, k)) =
        [(job.uuid, h)] := by simp [prepared.shown]
    rw [entries, last]
    exact (inv.mapped.cons _).trans (List.perm_append_singleton _ _).symm
  · intro k mem
    rcases either k mem with old | rfl
    · exact Nat.lt_of_lt_of_le (inv.allocated k old) prepared.grown
    · exact prepared.inside
  · exact Nat.le_trans inv.grown prepared.grown
  · intro k mem before
    rcases either k mem with old | rfl
    · rw [read_append, unchanged k old]
      exact inv.kept k old before
    · rw [read_append, prepared.shown]
      exact prepared.kept before
  · intro k mem after
    rcases either k mem with old | rfl
    · rw [read_append, unchanged k old]
      exact inv.fresh k old after
    · rw [read_append, prepared.shown]
      exact prepared.fresh after
  · intro k before out
    rw [list, List.mem_append, List.mem_singleton, not_or] at out
    rw [read_append, prepared.others k (Nat.lt_of_lt_of_le before inv.grown) out.2]
    exact inv.spared k before out.1
  · change count.added = (((job.uuid, h) :: next.byUuid).map Prod.fst |>.filter _).length
    rw [added, inv.added, prepared.byUuid, List.map_cons, List.filter_cons]
    cases r.contains job.uuid <;> rfl
  · change count.updated = (((job.uuid, h) :: next.byUuid).map Prod.fst |>.filter _).length
    rw [updated, inv.updated, prepared.byUuid, List.map_cons, List.filter_cons]
    cases r.contains job.uuid <;> rfl

/-- Every handle of the old list is free to take another snapshot as long as its UUID has not been
met: a handle from before stands on the new list only under its old UUID. -/
theorem not_mem_of_get? (inv : Building r seen built) (consistent : r.Consistent)
    {uuid : String} {h : Handle} (found : r.get? uuid = some h)
    (unseen : uuid ∉ seen.map Snapshot.uuid) : h ∉ built.2.handles := by
  intro mem
  obtain ⟨listed, shown⟩ := consistent.get?_eq_some_iff.mp found
  have again := inv.kept h mem (consistent.allocated h listed)
  have same := (consistent.get?_eq_some_iff.mp again).2
  rw [shown] at same
  apply unseen
  rw [← inv.contains_iff, contains_iff_mem_uuids, inv.consistent.mem_uuids_iff]
  exact ⟨h, mem, same.symm⟩

theorem prepared_write (inv : Building r seen built) (consistent : r.Consistent) {job : Snapshot}
    {h : Handle} (known : r.get? job.uuid = some h)
    (unseen : job.uuid ∉ seen.map Snapshot.uuid) :
    Prepared r built.2 job (built.2.write h job) h := by
  have before := consistent.allocated h (consistent.get?_eq_some_iff.mp known).1
  have inside := Nat.lt_of_lt_of_le before inv.grown
  refine ⟨rfl, rfl, by simp, by simpa using inside, read_write_self _ job inside, ?_,
    inv.not_mem_of_get? consistent known unseen, fun _ => known, ?_⟩
  · exact fun k _ ne => read_write_of_ne _ job ne.symm
  · intro beyond
    omega

theorem prepared_allocate (inv : Building r seen built) {job : Snapshot}
    (unknown : r.get? job.uuid = none) :
    Prepared r built.2 job (built.2.allocate job) built.2.nextHandle := by
  refine ⟨rfl, rfl, by simp [allocate], by simp [allocate, nextHandle],
    read_allocate_next _ job, ?_, ?_, ?_, fun _ => (get?_eq_none_iff r job.uuid).mp unknown⟩
  · exact fun k inside _ => read_allocate _ job inside
  · intro mem
    exact Nat.lt_irrefl _ (inv.allocated _ mem)
  · intro before
    exact absurd inv.grown (Nat.not_le_of_lt before)

theorem place (inv : Building r seen built) (consistent : r.Consistent) (job : Snapshot) :
    Building r (seen ++ [job]) (place r.byUuid built job) := by
  obtain ⟨count, b⟩ := built
  have met := inv.contains_iff job.uuid
  by_cases seenAlready : b.contains job.uuid = true
  · have same : Roster.place r.byUuid (count, b) job = (count, b) := by
      simp [Roster.place, seenAlready]
    rw [same]
    have listed : firstPerUuid (seen ++ [job]) = firstPerUuid seen := by
      rw [firstPerUuid_concat, if_pos (met.mp seenAlready)]
    exact { inv with listed := inv.listed.trans listed.symm }
  · have unseen : job.uuid ∉ seen.map Snapshot.uuid := fun mem => seenAlready (met.mpr mem)
    have absent : b.contains job.uuid = false := Bool.not_eq_true _ ▸ seenAlready
    cases found : r.get? job.uuid with
    | some h =>
      have placed : Roster.place r.byUuid (count, b) job =
          ({ count with updated := count.updated + 1 }, (b.write h job).append job.uuid h) := by
        rw [get?] at found
        simp [Roster.place, absent, found]
      have prepared := inv.prepared_write consistent found unseen
      rw [placed]
      exact inv.append unseen prepared (by simp [contains, found]) (by simp [contains, found])
    | none =>
      have placed : Roster.place r.byUuid (count, b) job =
          ({ count with added := count.added + 1 },
            (b.allocate job).append job.uuid b.nextHandle) := by
        rw [get?] at found
        simp [Roster.place, absent, found]
      have prepared := inv.prepared_allocate found
      rw [placed]
      exact inv.append unseen prepared (by simp [contains, found]) (by simp [contains, found])

theorem foldl (consistent : r.Consistent) (jobs : List Snapshot) (inv : Building r seen built) :
    Building r (seen ++ jobs) (jobs.foldl (Roster.place r.byUuid) built) := by
  induction jobs generalizing seen built with
  | nil => simpa using inv
  | cons job jobs ih => simpa using ih (inv.place consistent job)

theorem get?_of_known (inv : Building r seen built) {h : Handle} {job : Snapshot}
    (known : r.get? job.uuid = some h) (stands : job ∈ firstPerUuid seen) :
    built.2.get? job.uuid = some h ∧ built.2.read h = job := by
  rw [← inv.listed] at stands
  obtain ⟨k, listed, shown⟩ := List.mem_map.mp stands
  have here : built.2.get? job.uuid = some k :=
    inv.consistent.get?_eq_some_iff.mpr ⟨listed, congrArg Snapshot.uuid shown⟩
  have old : k.cell < r.cells.length := by
    by_contra beyond
    have absent := inv.fresh k listed (Nat.le_of_not_lt beyond)
    rw [shown, ← get?_eq_none_iff, known] at absent
    cases absent
  have again := inv.kept k listed old
  rw [shown, known] at again
  obtain rfl := Option.some.inj again
  exact ⟨here, shown⟩

theorem fresh_of_unknown (inv : Building r seen built) {uuid : String} {h : Handle}
    (unknown : r.get? uuid = none) (found : built.2.get? uuid = some h) :
    r.cells.length ≤ h.cell := by
  obtain ⟨listed, shown⟩ := inv.consistent.get?_eq_some_iff.mp found
  by_contra before
  have again := inv.kept h listed (Nat.lt_of_not_le before)
  rw [shown, unknown] at again
  cases again

end Building

/-- What the job list `jobs` makes of the roster `r`. -/
structure Replaced (r : Roster) (jobs : List Snapshot) (result : Change × Roster) : Prop where
  listed : result.2.jobs = firstPerUuid jobs
  kept : ∀ {uuid : String} {h : Handle} {job : Snapshot}, r.get? uuid = some h →
    jobs.find? (fun other => other.uuid == uuid) = some job →
      result.2.get? uuid = some h ∧ result.2.read h = job
  fresh : ∀ {uuid : String} {h : Handle}, r.get? uuid = none → result.2.get? uuid = some h →
    r.cells.length ≤ h.cell
  left : ∀ {h : Handle}, h ∈ r.handles → h ∉ result.2.handles → result.2.read h = r.read h
  counted : result.1 = r.change result.2
  added_add_updated : result.1.added + result.1.updated = result.2.size
  updated_add_removed : result.1.updated + result.1.removed = r.size

theorem Consistent.length_uuids {r : Roster} (consistent : r.Consistent) :
    r.uuids.length = r.size := by
  rw [consistent.uuids_perm.length_eq, jobs, size]
  simp

theorem length_shared_comm {old new : Roster} (oldOk : old.Consistent) (newOk : new.Consistent) :
    (new.uuids.filter old.contains).length = (old.uuids.filter new.contains).length := by
  have perm : (new.uuids.filter old.contains).Perm (old.uuids.filter new.contains) := by
    rw [List.perm_ext_iff_of_nodup (newOk.nodup_uuids.filter _) (oldOk.nodup_uuids.filter _)]
    intro uuid
    rw [List.mem_filter, List.mem_filter, contains_iff_mem_uuids, contains_iff_mem_uuids]
    exact and_comm
  exact perm.length_eq

theorem added_add_updated_change {old new : Roster} (newOk : new.Consistent) :
    (old.change new).added + (old.change new).updated = new.size := by
  have split := List.length_eq_length_filter_add (l := new.uuids) old.contains
  rw [newOk.length_uuids] at split
  simp only [change]
  omega

theorem updated_add_removed_change {old new : Roster} (oldOk : old.Consistent)
    (newOk : new.Consistent) :
    (old.change new).updated + (old.change new).removed = old.size := by
  have split := List.length_eq_length_filter_add (l := old.uuids) new.contains
  rw [oldOk.length_uuids] at split
  simp only [change, length_shared_comm oldOk newOk]
  omega

section

variable {r : Roster} (consistent : r.Consistent) (jobs : List Snapshot)
include consistent

theorem Consistent.building :
    Building r jobs (jobs.foldl (place r.byUuid) (⟨0, 0, 0⟩, r.renew)) := by
  simpa using Building.foldl consistent jobs (building_renew r)

theorem Consistent.replace : (r.replace jobs).Consistent := (consistent.building jobs).consistent

theorem Consistent.replaced : Replaced r jobs (r.replaceCounting jobs) := by
  have inv := consistent.building jobs
  have next := inv.consistent
  have counted : (r.replaceCounting jobs).1 = r.change (r.replaceCounting jobs).2 := by
    simp only [replaceCounting, change, Change.mk.injEq]
    exact ⟨inv.added, inv.updated, trivial⟩
  refine ⟨inv.listed, ?_, inv.fresh_of_unknown, ?_, counted, ?_, ?_⟩
  · intro uuid h job known first
    obtain rfl : job.uuid = uuid := by simpa using List.find?_some first
    exact inv.get?_of_known known ((mem_firstPerUuid_iff jobs job).mpr first)
  · intro h listed gone
    exact inv.spared h (consistent.allocated h listed) gone
  · rw [counted]
    exact added_add_updated_change next
  · rw [counted]
    exact updated_add_removed_change consistent next

theorem Consistent.jobs_replace (distinct : (jobs.map Snapshot.uuid).Nodup) :
    (r.replace jobs).jobs = jobs :=
  (consistent.replaced jobs).listed.trans (firstPerUuid_of_nodup distinct)

end

end Roster

end BackupConsole
