import BackupConsole.Proofs.Roster.Replacement

/-!
# The history of a roster

Over a whole history of job lists and single updates, starting from a roster without jobs, list and
map stay consistent, and handles keep their identity: a job has one handle for as long as it is on
the list, a handle is never given to a second stay on the list, and once its job has left nobody
writes behind it any more. `Evolves` is the part of this that composes along a history.
-/

set_option autoImplicit false

namespace BackupConsole

open Job

namespace Roster

inductive Event where
  | replace (jobs : List Snapshot)
  | update (job : Snapshot)
  | renew

def after (r : Roster) : Event → Roster
  | .replace jobs => r.replace jobs
  | .update job => r.update job
  | .renew => r.renew

def run (r : Roster) (events : List Event) : Roster := events.foldl after r

theorem run_append (r : Roster) (earlier later : List Event) :
    r.run (earlier ++ later) = (r.run earlier).run later := List.foldl_append

theorem Consistent.after {r : Roster} (consistent : r.Consistent) (event : Event) :
    (r.after event).Consistent := by
  cases event with
  | replace jobs => exact consistent.replace jobs
  | update job => exact consistent.update job
  | renew => exact consistent_renew r

theorem Consistent.run {r : Roster} (consistent : r.Consistent) (events : List Event) :
    (r.run events).Consistent := by
  induction events generalizing r with
  | nil => exact consistent
  | cons event events ih => exact ih (consistent.after event)

/-- `next` comes later than `r`: cells are only added, a handle that comes to the list is new, and
nothing is written behind a handle that was off the list. -/
structure Evolves (r next : Roster) : Prop where
  grown : r.cells.length ≤ next.cells.length
  fresh : ∀ h ∈ next.handles, h ∈ r.handles ∨ r.cells.length ≤ h.cell
  spared : ∀ h : Handle, h.cell < r.cells.length → h ∉ r.handles → next.read h = r.read h

namespace Evolves

theorem refl (r : Roster) : Evolves r r :=
  ⟨Nat.le_refl _, fun _ mem => Or.inl mem, fun _ _ _ => rfl⟩

theorem not_mem {r next : Roster} (evolves : Evolves r next) {h : Handle}
    (inside : h.cell < r.cells.length) (off : h ∉ r.handles) : h ∉ next.handles := by
  intro mem
  rcases evolves.fresh h mem with old | new
  · exact off old
  · omega

theorem trans {r next last : Roster} (first : Evolves r next) (second : Evolves next last) :
    Evolves r last := by
  refine ⟨Nat.le_trans first.grown second.grown, ?_, ?_⟩
  · intro h mem
    rcases second.fresh h mem with old | new
    · exact first.fresh h old
    · exact Or.inr (Nat.le_trans first.grown new)
  · intro h inside off
    have stillInside := Nat.lt_of_lt_of_le inside first.grown
    rw [second.spared h stillInside (first.not_mem inside off)]
    exact first.spared h inside off

end Evolves

theorem evolves_replace {r : Roster} (consistent : r.Consistent) (jobs : List Snapshot) :
    Evolves r (r.replace jobs) := by
  have inv := consistent.building jobs
  have fresh : ∀ h ∈ (r.replace jobs).handles, h ∈ r.handles ∨ r.cells.length ≤ h.cell := by
    intro h mem
    by_cases before : h.cell < r.cells.length
    · exact Or.inl (consistent.get?_eq_some_iff.mp (inv.kept h mem before)).1
    · exact Or.inr (Nat.le_of_not_lt before)
  refine ⟨inv.grown, fresh, ?_⟩
  intro h inside off
  apply inv.spared h inside
  intro mem
  rcases fresh h mem with old | new
  · exact off old
  · omega

theorem evolves_update {r : Roster} (consistent : r.Consistent) (job : Snapshot) :
    Evolves r (r.update job) := by
  refine ⟨?_, ?_, ?_⟩
  · unfold update
    split <;> simp
  · intro h mem
    rw [handles_update] at mem
    exact Or.inl mem
  · intro h _ off
    rw [consistent.read_update, if_neg]
    intro found
    exact off (consistent.get?_eq_some_iff.mp found).1

theorem evolves_after {r : Roster} (consistent : r.Consistent) (event : Event) :
    Evolves r (r.after event) := by
  cases event with
  | replace jobs => exact evolves_replace consistent jobs
  | update job => exact evolves_update consistent job
  | renew =>
    refine ⟨Nat.le_refl _, ?_, fun _ _ _ => rfl⟩
    intro h mem
    cases mem

theorem evolves_run {r : Roster} (consistent : r.Consistent) (events : List Event) :
    Evolves r (r.run events) := by
  induction events generalizing r with
  | nil => exact Evolves.refl r
  | cons event events ih => exact (evolves_after consistent event).trans (ih (consistent.after event))

theorem consistent_run (events : List Event) : (run {} events).Consistent :=
  (consistent_of_handles_eq_nil rfl rfl).run events

theorem evolves_along {earlier events : List Event} (before : earlier <+: events) :
    Evolves (run {} earlier) (run {} events) := by
  obtain ⟨later, rfl⟩ := before
  rw [run_append]
  exact evolves_run (consistent_run earlier) later

/-- Over every history of a roster list and map agree, a new job list gives each job that stays its
old handle and each job that comes a handle that no earlier moment has seen, and a handle that has
left the list is neither listed nor written any more. -/
theorem run_keeps_identity (events : List Event) :
    (run {} events).Consistent ∧
      (∀ jobs, Replaced (run {} events) jobs ((run {} events).replaceCounting jobs)) ∧
      (∀ jobs uuid h, (run {} events).get? uuid = none →
        ((run {} events).replace jobs).get? uuid = some h →
        ∀ earlier, earlier <+: events → h ∉ (run {} earlier).handles) ∧
      (∀ earlier h, earlier <+: events → h ∈ (run {} earlier).handles →
        h ∉ (run {} events).handles →
        ∀ later, h ∉ (run {} (events ++ later)).handles ∧
          (run {} (events ++ later)).read h = (run {} events).read h) := by
  have consistent := consistent_run events
  refine ⟨consistent, consistent.replaced, ?_, ?_⟩
  · intro jobs uuid h unknown found earlier before mem
    have new := (consistent.replaced jobs).fresh unknown found
    have old := (consistent_run earlier).allocated h mem
    have grown := (evolves_along before).grown
    omega
  · intro earlier h before mem off later
    have inside := Nat.lt_of_lt_of_le ((consistent_run earlier).allocated h mem)
      (evolves_along before).grown
    have evolves := evolves_along (List.prefix_append events later)
    exact ⟨evolves.not_mem inside off, evolves.spared h inside off⟩

/-- A job that comes back has another handle than before. -/
example : (run {} [.replace [{ uuid := "a" }], .replace [], .replace [{ uuid := "a" }]]).get? "a" =
    some ⟨1⟩ := by decide

end Roster

end BackupConsole
