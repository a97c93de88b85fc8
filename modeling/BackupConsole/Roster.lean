import BackupConsole.Job.Snapshot

/-!
# The roster of jobs

The roster is the current list of jobs in server order. A job that stays on the list from one
refresh to the next keeps its handle, and the snapshot behind the handle is overwritten, so whoever
holds the handle sees the job change. Handles are places in a list of cells that only grows: a job
that leaves the list keeps its cell for good, and one that comes back gets a new cell.
-/

set_option autoImplicit false

namespace BackupConsole

open Job

/-- A lasting reference to one job of the roster. -/
structure Handle where
  cell : Nat
deriving DecidableEq, Repr

/-- The snapshots behind all handles, the handles in server order, and the map that finds the handle
of a UUID, the newest entry first. -/
structure Roster where
  cells : List Snapshot := []
  handles : List Handle := []
  byUuid : List (String × Handle) := []
deriving DecidableEq, Repr, Inhabited

namespace Roster

def read (r : Roster) (h : Handle) : Snapshot := r.cells.getD h.cell {}

def get? (r : Roster) (uuid : String) : Option Handle := r.byUuid.lookup uuid

def contains (r : Roster) (uuid : String) : Bool := (r.get? uuid).isSome

def uuids (r : Roster) : List String := r.byUuid.map Prod.fst

def jobs (r : Roster) : List Snapshot := r.handles.map r.read

def size (r : Roster) : Nat := r.handles.length

def isEmpty (r : Roster) : Bool := r.handles.isEmpty

def job? (r : Roster) (uuid : String) : Option Snapshot := (r.get? uuid).map r.read

def findByName? (r : Roster) (name : String) : Option Snapshot :=
  r.jobs.find? fun job => job.name == name

def write (r : Roster) (h : Handle) (job : Snapshot) : Roster :=
  { r with cells := r.cells.set h.cell job }

def allocate (r : Roster) (job : Snapshot) : Roster := { r with cells := r.cells ++ [job] }

def nextHandle (r : Roster) : Handle := ⟨r.cells.length⟩

def append (r : Roster) (uuid : String) (h : Handle) : Roster :=
  { r with handles := r.handles ++ [h], byUuid := (uuid, h) :: r.byUuid }

/-- A fresh list without jobs; its handles differ from all earlier ones. -/
def renew (r : Roster) : Roster := { r with handles := [], byUuid := [] }

structure Change where
  added : Nat
  updated : Nat
  removed : Nat
deriving DecidableEq, Repr

/-- One more job of a new list, counted; `old` is the map of the list before. A UUID that the new
list has already is passed over. -/
def place (old : List (String × Handle)) (built : Change × Roster) (job : Snapshot) :
    Change × Roster :=
  let (count, r) := built
  if r.contains job.uuid then built
  else
    match old.lookup job.uuid with
    | some h => ({ count with updated := count.updated + 1 }, (r.write h job).append job.uuid h)
    | none =>
      ({ count with added := count.added + 1 }, (r.allocate job).append job.uuid r.nextHandle)

def replaceCounting (r : Roster) (jobs : List Snapshot) : Change × Roster :=
  let (count, next) := jobs.foldl (place r.byUuid) (⟨0, 0, 0⟩, r.renew)
  ({ count with removed := (r.uuids.filter fun uuid => !next.contains uuid).length }, next)

def replace (r : Roster) (jobs : List Snapshot) : Roster := (r.replaceCounting jobs).2

def update (r : Roster) (job : Snapshot) : Roster :=
  match r.get? job.uuid with
  | some h => r.write h job
  | none => r

def change (old new : Roster) : Change :=
  { added := (new.uuids.filter fun uuid => !old.contains uuid).length
    updated := (new.uuids.filter old.contains).length
    removed := (old.uuids.filter fun uuid => !new.contains uuid).length }

@[simp] theorem handles_write (r : Roster) (h : Handle) (job : Snapshot) :
    (r.write h job).handles = r.handles := rfl

@[simp] theorem byUuid_write (r : Roster) (h : Handle) (job : Snapshot) :
    (r.write h job).byUuid = r.byUuid := rfl

@[simp] theorem length_cells_write (r : Roster) (h : Handle) (job : Snapshot) :
    (r.write h job).cells.length = r.cells.length := List.length_set

theorem read_write_self (r : Roster) {h : Handle} (job : Snapshot) (inside : h.cell < r.cells.length) :
    (r.write h job).read h = job := by
  simp [write, read, List.getD, inside]

theorem read_write_of_ne (r : Roster) {h k : Handle} (job : Snapshot) (ne : h ≠ k) :
    (r.write h job).read k = r.read k := by
  have cellsNe : h.cell ≠ k.cell := fun e => ne (by cases h; cases k; simp_all)
  simp [write, read, List.getD, List.getElem?_set_ne cellsNe]

theorem read_allocate (r : Roster) (job : Snapshot) {h : Handle} (inside : h.cell < r.cells.length) :
    (r.allocate job).read h = r.read h := by
  simp [allocate, read, List.getD, List.getElem?_append_left inside]

theorem read_allocate_next (r : Roster) (job : Snapshot) :
    (r.allocate job).read r.nextHandle = job := by
  simp [allocate, nextHandle, read, List.getD]

@[simp] theorem read_append (r : Roster) (uuid : String) (h k : Handle) :
    (r.append uuid h).read k = r.read k := rfl

@[simp] theorem handles_update (r : Roster) (job : Snapshot) :
    (r.update job).handles = r.handles := by
  unfold update
  split <;> simp

@[simp] theorem byUuid_update (r : Roster) (job : Snapshot) :
    (r.update job).byUuid = r.byUuid := by
  unfold update
  split <;> simp

end Roster

end BackupConsole
