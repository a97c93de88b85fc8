import BackupConsole.Proofs.Simulation.Handling

set_option autoImplicit false

namespace BackupConsole.Simulation

open Job Wire

namespace Server

/-! ## Events -/

inductive Event where
  | command (now : Int64) (r : Request)
  | add (uuid name : String) (state : State)
  | change (uuid : String) (f : Snapshot → Snapshot)
  | remove (uuid : String)
  | override (uuid : String) (overrides : List (String × String))
  | schedule (uuid : String) (schedule : Schedule)
  | switch (runState : RunState)
  | reach (offline : Bool)
  | inject (command : String) (times : Nat) (failure : Failure)
  | forget

def undergo (s : Server) : Event → Server
  | .command now r => (s.respond now r).2
  | .add uuid name state => s.addJob uuid name state
  | .change uuid f => s.changeJob uuid fun job => { job with snapshot := f job.snapshot }
  | .remove uuid => s.removeJob uuid
  | .override uuid overrides => s.setOverrides uuid overrides
  | .schedule uuid schedule => s.addSchedule uuid schedule
  | .switch runState => { s with runState }
  | .reach offline => { s with offline }
  | .inject command times failure => s.inject command times failure
  | .forget => { s with commands := [] }

def run (s : Server) (events : List Event) : Server := events.foldl undergo s

/-- Each event with the server that it meets. -/
def moments (s : Server) : List Event → List (Server × Event)
  | [] => []
  | e :: events => (s, e) :: (s.undergo e).moments events

/-- No job is removed, and only commands change the state of a job. -/
def Event.Steady : Event → Prop
  | .remove _ => False
  | .change _ f => ∀ snapshot, (f snapshot).state = snapshot.state
  | _ => True

/-! ## What an event is to a job -/

def orders (s : Server) (name : String) (i : Nat) : Event → Bool
  | .command now r => r.name == name && s.accepts now r && s.place? (jobUUID r) == some i
  | _ => false

/-- The run state is asked for, and the server is running after the pause has run down. -/
def ticks (s : Server) : Event → Bool
  | .command now r => r.name == "STATUS" && s.accepts now r && countDown s.runState == .running
  | _ => false

def progresses (s : Server) (i : Nat) (e : Event) : Bool :=
  s.ticks e || s.runState == .running && s.orders "JOB_INFO" i e

def starts (s : Server) (i : Nat) (e : Event) : Bool :=
  s.orders "JOB_START" i e || s.orders "SCHEDULE_TRIGGER" i e

def restarts (s : Server) (i : Nat) (e : Event) : Bool :=
  s.starts i e || s.orders "JOB_RESET" i e

end Server

/-- The event removes no job and, unless it is a command, leaves of each job what `K` compares. -/
def Server.Event.Keeps (K : SimJob → SimJob → Prop) : Server.Event → Prop
  | .remove _ => False
  | .change _ f => ∀ job : SimJob, K job { job with snapshot := f job.snapshot }
  | .override _ overrides => ∀ job : SimJob, K job { job with overrides }
  | .schedule _ added => ∀ job : SimJob, K job { job with schedules := job.schedules ++ [added] }
  | _ => True

/-- The job is in the same state and has come as far as before. -/
structure SimJob.Alike (job other : SimJob) : Prop where
  state : other.snapshot.state = job.snapshot.state
  doneCount : other.doneCount = job.doneCount
  totalCount : other.totalCount = job.totalCount

theorem SimJob.Alike.refl (job : SimJob) : job.Alike job := ⟨rfl, rfl, rfl⟩

namespace Server

theorem Event.Steady.keeps {e : Event} (steady : e.Steady) : e.Keeps SimJob.Alike := by
  cases e with
  | remove uuid => exact steady
  | change uuid f => exact fun job => ⟨steady job.snapshot, rfl, rfl⟩
  | override | schedule => exact fun job => ⟨rfl, rfl, rfl⟩
  | command | add | switch | reach | inject | forget => trivial

/-- What an event makes of the job at a place. An event that is nothing to the job leaves of it what
`K` compares. -/
inductive MovesBy (K : SimJob → SimJob → Prop) (s : Server) (i : Nat) (job : SimJob) :
    Event → SimJob → Prop where
  | kept {e : Event} {other : SimJob} (alike : K job other)
      (unordered : ∀ name ∈ jobCommands, s.orders name i e = false) (still : s.ticks e = false) :
      MovesBy K s i job e other
  | ticked {now : Int64} {r : Request} (ticks : s.ticks (.command now r) = true)
      (unordered : ∀ name ∈ jobCommands, s.orders name i (.command now r) = false) :
      MovesBy K s i job (.command now r) (job.advance now)
  | ordered {now : Int64} {r : Request} {other : SimJob} (known : r.name ∈ jobCommands)
      (orders : ∀ name, s.orders name i (.command now r) = (r.name == name))
      (obeys : job.Obeys now s.runState r other) : MovesBy K s i job (.command now r) other

abbrev Moves (s : Server) : Nat → SimJob → Event → SimJob → Prop := MovesBy SimJob.Alike s

section

variable {s : Server} {i : Nat} {job : SimJob} {K : SimJob → SimJob → Prop}
  (refl : ∀ job, K job job)

theorem getElem?_set_cases {jobs : List SimJob} {j : Nat} {found : SimJob} (other : SimJob)
    (here : jobs[i]? = some job) (there : jobs[j]? = some found) :
    (j = i ∧ found = job ∧ (jobs.set j other)[i]? = some other) ∨
      (j ≠ i ∧ (jobs.set j other)[i]? = some job) := by
  rw [List.getElem?_set]
  by_cases same : j = i
  · subst same
    obtain ⟨inside, _⟩ := List.getElem?_eq_some_iff.mp here
    rw [if_pos rfl, if_pos inside]
    exact .inl ⟨rfl, Option.some.inj (there.symm.trans here), rfl⟩
  · rw [if_neg same]
    exact .inr ⟨same, here⟩

include refl in
theorem getElem?_changeJob {uuid : String} {f : SimJob → SimJob} (alike : ∀ job, K job (f job))
    (here : s.jobs[i]? = some job) :
    ∃ other, (s.changeJob uuid f).jobs[i]? = some other ∧ K job other := by
  unfold changeJob
  split
  · exact ⟨job, here, refl job⟩
  · rename_i found own
    obtain ⟨j, place, there⟩ := exists_place own
    rw [setJob, setFirst_eq_set place]
    obtain ⟨_, rfl, set⟩ | ⟨_, set⟩ := getElem?_set_cases (f found) here there
    · exact ⟨f found, set, alike found⟩
    · exact ⟨job, set, refl job⟩

theorem length_changeJob (s : Server) (uuid : String) (f : SimJob → SimJob) :
    (s.changeJob uuid f).jobs.length = s.jobs.length := by
  unfold changeJob
  split
  · rfl
  · rename_i found
    obtain ⟨j, place, _⟩ := exists_place found
    rw [setJob, setFirst_eq_set place, List.length_set]

include refl in
theorem MovesBy.of_refused {now : Int64} {r : Request} (refused : s.accepts now r = false) :
    MovesBy K s i job (.command now r) job := by
  refine .kept (refl job) (fun name _ => ?_) ?_
  · simp [orders, refused]
  · simp [ticks, refused]

theorem ticks_of_ne {now : Int64} {r : Request} (name : r.name ≠ "STATUS") :
    s.ticks (.command now r) = false := by
  simp [ticks, name]

theorem orders_of_ne {now : Int64} {r : Request} {name : String} (ne : r.name ≠ name) :
    s.orders name i (.command now r) = false := by
  simp [orders, ne]

theorem exists_of_orders {e : Event} {name : String} (orders : s.orders name i e = true) :
    ∃ now r job, e = .command now r ∧ r.name = name ∧ s.accepts now r = true ∧
      s.place? (jobUUID r) = some i ∧ s.jobs[i]? = some job := by
  cases e with
  | command now r =>
    obtain ⟨⟨named, taken⟩, place⟩ : (r.name = name ∧ s.accepts now r = true) ∧
        s.place? (jobUUID r) = some i := by simpa [Server.orders] using orders
    obtain ⟨inside, _⟩ := List.findIdx?_eq_some_iff_getElem.mp place
    exact ⟨now, r, _, rfl, named, taken, place, List.getElem?_eq_getElem inside⟩
  | _ => cases orders

theorem starts_of_unordered {e : Event} (unordered : ∀ name ∈ jobCommands, s.orders name i e = false) :
    s.starts i e = false := by
  rw [starts, unordered _ (by decide), unordered _ (by decide)]
  rfl

include refl in
theorem MovesBy.of_handles {now : Int64} {r : Request} {after : Server}
    (taken : s.accepts now r = true) (handles : (s.logged r).Handles now r after)
    (here : s.jobs[i]? = some job) :
    ∃ other, after.jobs[i]? = some other ∧ MovesBy K s i job (.command now r) other := by
  have unordered {first : String} (named : r.name = first) (foreign : first ∉ jobCommands) :
      ∀ name ∈ jobCommands, s.orders name i (.command now r) = false :=
    fun name known => orders_of_ne fun same => foreign (named ▸ same ▸ known)
  cases handles with
  | listed named =>
    exact ⟨job, here, .kept (refl job) (unordered named (by decide))
      (ticks_of_ne (by simp [named]))⟩
  | stated named =>
    rw [status]
    by_cases running : countDown s.runState = .running
    · refine ⟨job.advance now, ?_, .ticked ?_ (unordered named (by decide))⟩
      · rw [logged, if_pos running, List.getElem?_map, here, Option.map_some]
      · simp [ticks, named, taken, running]
    · refine ⟨job, ?_, .kept (refl job) (unordered named (by decide)) ?_⟩
      · rw [logged, if_neg running]
        exact here
      · simp [ticks, running]
  | switched named runState =>
    refine ⟨job, here, .kept (refl job) (unordered rfl fun known => ?_) (ticks_of_ne ?_)⟩
    · exact not_switches_of_known known named
    · exact fun same => absurd (same ▸ named) (by decide)
  | ordered known j place found other there obeys =>
    have elsewhere : r.name ≠ "STATUS" := fun same => absurd (same ▸ known) (by decide)
    have place : s.place? (jobUUID r) = some j := place
    have orders (name : String) : s.orders name i (.command now r) = (r.name == name && j == i) := by
      rw [Server.orders, taken, place, Bool.and_true]
      rfl
    obtain ⟨rfl, rfl, set⟩ | ⟨ne, set⟩ := getElem?_set_cases other here there
    · exact ⟨other, set, .ordered known (fun name => by simp [orders]) obeys⟩
    · exact ⟨job, set, .kept (refl job) (fun name _ => by simp [orders, ne])
        (ticks_of_ne elsewhere)⟩

include refl in
theorem movesBy_undergo {e : Event} (keeps : e.Keeps K) (here : s.jobs[i]? = some job) :
    ∃ other, (s.undergo e).jobs[i]? = some other ∧ MovesBy K s i job e other := by
  have quiet {e : Event} {other : SimJob} (alike : K job other)
      (unordered : ∀ name, s.orders name i e = false) (still : s.ticks e = false) :
      MovesBy K s i job e other := .kept alike (fun name _ => unordered name) still
  have changed {e : Event} {uuid : String} {f : SimJob → SimJob} (alike : ∀ job, K job (f job))
      (unordered : ∀ name, s.orders name i e = false) (still : s.ticks e = false) :
      ∃ other, (s.changeJob uuid f).jobs[i]? = some other ∧ MovesBy K s i job e other := by
    obtain ⟨other, there, alike⟩ : ∃ other, (s.changeJob uuid f).jobs[i]? = some other ∧
        K job other := getElem?_changeJob refl alike here
    exact ⟨other, there, quiet alike unordered still⟩
  cases e with
  | command now r =>
    obtain ⟨refused, jobs⟩ | ⟨taken, handles⟩ := refused_or_handled now s r
    · exact ⟨job, (congrArg (·[i]?) jobs).trans here, .of_refused refl refused⟩
    · exact MovesBy.of_handles refl taken handles here
  | add uuid name state =>
    refine ⟨job, ?_, quiet (refl job) (fun _ => rfl) rfl⟩
    obtain ⟨inside, _⟩ := List.getElem?_eq_some_iff.mp here
    exact (List.getElem?_append_left inside).trans here
  | remove uuid => exact keeps.elim
  | change | override | schedule => exact changed keeps (fun _ => rfl) rfl
  | switch | reach | forget => exact ⟨job, here, quiet (refl job) (fun _ => rfl) rfl⟩
  | inject command times failure =>
    refine ⟨job, ?_, quiet (refl job) (fun _ => rfl) rfl⟩
    rw [undergo, Server.inject]
    split <;> exact here

theorem moves_undergo {e : Event} (steady : e.Steady) (here : s.jobs[i]? = some job) :
    ∃ other, (s.undergo e).jobs[i]? = some other ∧ s.Moves i job e other :=
  movesBy_undergo SimJob.Alike.refl steady.keeps here

theorem obeys_of_orders {now : Int64} {r : Request} {name : String} (known : name ∈ jobCommands)
    (orders : s.orders name i (.command now r) = true) :
    r.name = name ∧ ∃ job other, s.jobs[i]? = some job ∧
      (s.undergo (.command now r)).jobs[i]? = some other ∧ job.Obeys now s.runState r other := by
  obtain ⟨_, _, job, same, named, _, _, here⟩ := exists_of_orders orders
  cases same
  obtain ⟨other, there, moves⟩ := moves_undergo (e := .command now r) trivial here
  refine ⟨named, job, other, here, there, ?_⟩
  cases moves with
  | kept _ unordered | ticked _ unordered =>
    rw [unordered name known] at orders
    cases orders
  | ordered _ _ obeys => exact obeys

theorem length_of_handles {now : Int64} {r : Request} {after : Server}
    (handles : (s.logged r).Handles now r after) : after.jobs.length = s.jobs.length := by
  cases handles with
  | listed | switched => rfl
  | stated =>
    rw [status]
    split
    · exact List.length_map _
    · rfl
  | ordered => exact List.length_set

theorem length_undergo {e : Event} (steady : e.Steady) :
    (∃ uuid name state, e = .add uuid name state) ∨ (s.undergo e).jobs.length = s.jobs.length := by
  cases e with
  | command now r =>
    obtain ⟨_, jobs⟩ | ⟨_, handles⟩ := refused_or_handled now s r
    · exact .inr (congrArg List.length jobs)
    · exact .inr (length_of_handles handles)
  | add uuid name state => exact .inl ⟨uuid, name, state, rfl⟩
  | change | override | schedule => exact .inr (length_changeJob _ _ _)
  | remove uuid => exact steady.elim
  | switch | reach | forget => exact .inr rfl
  | inject command times failure =>
    rw [undergo, Server.inject]
    split <;> exact .inr rfl

theorem origin_undergo {e : Event} (steady : e.Steady) {other : SimJob}
    (here : (s.undergo e).jobs[i]? = some other) :
    (∃ job, s.jobs[i]? = some job ∧ s.Moves i job e other) ∨
      ∃ uuid name state, other = SimJob.new uuid name state := by
  cases before : s.jobs[i]? with
  | some job =>
    obtain ⟨next, there, moves⟩ := moves_undergo steady before
    obtain rfl : next = other := Option.some.inj (there.symm.trans here)
    exact .inl ⟨job, rfl, moves⟩
  | none =>
    have beyond : s.jobs.length ≤ i := List.getElem?_eq_none_iff.mp before
    obtain ⟨inside, _⟩ := List.getElem?_eq_some_iff.mp here
    obtain ⟨uuid, name, state, rfl⟩ | same := s.length_undergo steady
    · refine .inr ⟨uuid, name, state, ?_⟩
      have added : (s.jobs ++ [SimJob.new uuid name state])[i]? = some other := here
      rw [List.getElem?_append_right beyond, List.getElem?_singleton] at added
      split at added
      · exact (Option.some.inj added).symm
      · cases added
    · exact absurd (same ▸ inside) (Nat.not_lt.mpr beyond)

end

end Server

end BackupConsole.Simulation
