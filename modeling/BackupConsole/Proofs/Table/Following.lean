import BackupConsole.Proofs.Roster.History
import BackupConsole.Proofs.Table.Replay

set_option autoImplicit false

namespace BackupConsole

open Job

namespace Roster

def rowOf (r : Roster) (job : Snapshot) : Row :=
  { handle := (r.get? job.uuid).getD ⟨0⟩, snapshot := job, hint := job.hint }

namespace Consistent

variable {r : Roster} (consistent : r.Consistent)
include consistent

theorem rowsOf_eq : Table.rowsOf r r.handles = r.jobs.map r.rowOf := by
  rw [Table.rowsOf, jobs, List.map_map]
  apply List.map_congr_left
  intro h listed
  have found := consistent.get?_eq_some_iff.mpr ⟨listed, rfl⟩
  rw [Function.comp_apply, row, rowOf, found, Option.getD_some]

theorem properRows : ProperRows (Table.rowsOf r r.handles) := by
  refine ⟨?_, ?_⟩
  · rw [consistent.rowsOf_eq, List.map_map]
    exact consistent.distinct
  · intro row mem
    obtain ⟨h, _, rfl⟩ := List.mem_map.mp mem
    rfl

end Consistent

end Roster

namespace Table

structure Follower where
  roster : Roster := {}
  display : Display

namespace Follower

inductive Event where
  | roster (event : Roster.Event)
  | reconcile
  | setSort (key : SortKey)

def after (f : Follower) : Event → Follower
  | .roster event => { f with roster := f.roster.after event }
  | .reconcile => { f with display := f.display.after (.reconcile f.roster f.roster.handles) }
  | .setSort key => { f with display := f.display.after (.setSort key) }

def run (first : SortKey) (events : List Event) : Follower :=
  events.foldl after { display := { table := { sortKey := first } } }

structure Sound (f : Follower) : Prop where
  consistent : f.roster.Consistent
  ordered : f.display.Ordered
  proper : ProperRows f.display.given

theorem Sound.after {f : Follower} (sound : f.Sound) (event : Event) : (f.after event).Sound := by
  cases event with
  | roster event => exact ⟨sound.consistent.after event, sound.ordered, sound.proper⟩
  | reconcile => exact ⟨sound.consistent, sound.ordered.after _, sound.consistent.properRows⟩
  | setSort key => exact ⟨sound.consistent, sound.ordered.after _, sound.proper⟩

theorem sound_run (first : SortKey) (events : List Event) : (run first events).Sound := by
  suffices ∀ f : Follower, f.Sound → (events.foldl Follower.after f).Sound by
    apply this
    exact ⟨Roster.consistent_of_handles_eq_nil rfl rfl, Display.ordered_run first [],
      ⟨List.nodup_nil, fun _ mem => absurd mem List.not_mem_nil⟩⟩
  induction events with
  | nil => exact fun _ sound => sound
  | cons event events ih => exact fun f sound => ih _ (sound.after event)

end Follower

section

variable {roster : Roster} {before : Display} (consistent : roster.Consistent)
  (ordered : before.Ordered) (proper : ProperRows before.given)
include consistent ordered proper

end

end Table

end BackupConsole
