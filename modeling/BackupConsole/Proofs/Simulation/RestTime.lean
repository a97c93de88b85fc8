import BackupConsole.Proofs.Simulation.Events

set_option autoImplicit false

namespace BackupConsole.Simulation

open Job Wire

namespace SimJob

def rest (job : SimJob) : UInt64 := job.snapshot.estimatedRestSeconds

/-- The job neither makes progress nor waits for the user. -/
structure AtRest (job : SimJob) : Prop where
  idle : job.snapshot.hint ≠ .active
  unasked : job.snapshot.hint ≠ .needsAttention

/-- Nothing goes on, but there is a remaining time. -/
structure Stale (job : SimJob) : Prop extends job.AtRest where
  left : job.rest ≠ 0

/-- Only a job that is active, waits for a volume or has been reset may have a remaining time. -/
def Timed (job : SimJob) : Prop :=
  job.rest ≠ 0 → job.isActive = true ∨ job.snapshot.state = .requestVolume ∨ job.snapshot.state = .none

structure SameTime (job other : SimJob) : Prop where
  state : other.snapshot.state = job.snapshot.state
  rest : other.rest = job.rest

theorem SameTime.refl (job : SimJob) : job.SameTime job := ⟨rfl, rfl⟩

theorem atRest_iff {job : SimJob} :
    job.AtRest ↔ job.isActive = false ∧ job.snapshot.state.hint ≠ .needsAttention := by
  rw [← Bool.not_eq_true, isActive, ← State.hint_eq_active_iff]
  exact ⟨fun rests => ⟨rests.idle, rests.unasked⟩, fun both => ⟨both.1, both.2⟩⟩

theorem timed_new (uuid name : String) (state : State) : (SimJob.new uuid name state).Timed :=
  fun left => absurd rfl left

section

variable {job other : SimJob}

theorem SameTime.timed (same : job.SameTime other) (timed : job.Timed) : other.Timed := by
  rw [Timed, isActive, same.state, same.rest]
  exact timed

theorem SameTime.stale_iff (same : job.SameTime other) : other.Stale ↔ job.Stale := by
  have atRest : other.AtRest ↔ job.AtRest := by rw [atRest_iff, atRest_iff, isActive, same.state, isActive]
  exact ⟨fun stale => ⟨atRest.mp stale.toAtRest, same.rest ▸ stale.left⟩,
    fun stale => ⟨atRest.mpr stale.toAtRest, same.rest.symm ▸ stale.left⟩⟩

theorem not_stale_of_active (active : job.isActive = true) : ¬job.Stale :=
  fun stale => Bool.false_ne_true ((atRest_iff.mp stale.toAtRest).1.symm.trans active)

theorem not_stale_of_requestVolume (asks : job.snapshot.state = .requestVolume) : ¬job.Stale := by
  intro stale
  have unasked := (atRest_iff.mp stale.toAtRest).2
  rw [asks] at unasked
  exact unasked rfl

theorem Timed.none_of_stale (timed : job.Timed) (stale : job.Stale) : job.snapshot.state = .none := by
  obtain active | asks | none := timed stale.left
  · exact absurd stale (not_stale_of_active active)
  · exact absurd stale (not_stale_of_requestVolume asks)
  · exact none

theorem atRest_of_none (none : job.snapshot.state = .none) : job.AtRest :=
  atRest_iff.mpr ⟨by rw [isActive, none]; rfl, by rw [none]; decide⟩

theorem timed_of_active (active : job.isActive = true) : job.Timed := fun _ => .inl active

theorem advance_cases (now : Int64) (active : job.isActive = true) :
    (job.advance now).isActive = true ∨ (job.advance now).rest = 0 := by
  rw [advance, if_pos active]
  dsimp only
  split
  · rename_i last
    rw [last]
    exact .inr rfl
  · exact .inl active

end

end SimJob

namespace Server

/-- The job at this place is reset while it waits for a volume with some time remaining. -/
def strands (s : Server) (i : Nat) (e : Event) : Prop :=
  s.orders "JOB_RESET" i e = true ∧
    ∃ job, s.jobs[i]? = some job ∧ job.snapshot.state = .requestVolume ∧ job.rest ≠ 0

/-- Some event strands the job at this place, and it is not started after that. -/
def LeavesStranded (s : Server) (i : Nat) (events : List Event) : Prop :=
  ∃ before e after, events = before ++ e :: after ∧ (s.run before).strands i e ∧
    ∀ moment ∈ ((s.run before).undergo e).moments after, moment.1.starts i moment.2 = false

def isStaleAt (s : Server) (i : Nat) : Prop := ∃ job, s.jobs[i]? = some job ∧ job.Stale

def Event.Untimed : Event → Prop
  | .remove _ => False
  | .change _ f => ∀ snapshot : Snapshot, (f snapshot).state = snapshot.state ∧
      (f snapshot).estimatedRestSeconds = snapshot.estimatedRestSeconds
  | _ => True

theorem Event.Untimed.steady {e : Event} (untimed : e.Untimed) : e.Steady := by
  cases e with
  | remove uuid => exact untimed
  | change uuid f => exact fun snapshot => (untimed snapshot).1
  | command | add | override | schedule | switch | reach | inject | forget => trivial

theorem Event.Untimed.keeps {e : Event} (untimed : e.Untimed) : e.Keeps SimJob.SameTime := by
  cases e with
  | remove uuid => exact untimed
  | change uuid f => exact fun job => ⟨(untimed job.snapshot).1, (untimed job.snapshot).2⟩
  | override | schedule => exact fun job => ⟨rfl, rfl⟩
  | command | add | switch | reach | inject | forget => trivial

/-! ## One event -/

structure Times (s : Server) (i : Nat) (job : SimJob) (e : Event) (other : SimJob) : Prop where
  timed : other.Timed
  stale : other.Stale ↔ job.Stale ∧ s.starts i e = false ∨
    s.orders "JOB_RESET" i e = true ∧ job.snapshot.state = .requestVolume ∧ job.rest ≠ 0

section

variable {s : Server} {i : Nat} {job other : SimJob} {e : Event}

theorem Times.of_same (timed : job.Timed) (same : job.SameTime other)
    (unstarted : s.starts i e = false) (kept : s.orders "JOB_RESET" i e = false) :
    s.Times i job e other where
  timed := same.timed timed
  stale := by simp [same.stale_iff, unstarted, kept]

theorem Times.of_settled (timed : other.Timed) (settled : ¬other.Stale)
    (before : job.Stale → s.starts i e = true) (kept : s.orders "JOB_RESET" i e = false) :
    s.Times i job e other where
  timed := timed
  stale := by
    simp only [settled, kept, false_iff]
    rintro (⟨stale, unstarted⟩ | ⟨resets, _⟩)
    · exact Bool.false_ne_true (unstarted.symm.trans (before stale))
    · exact Bool.false_ne_true resets

theorem Times.of_advance (timed : job.Timed) (now : Int64) (unstarted : s.starts i e = false)
    (kept : s.orders "JOB_RESET" i e = false) : s.Times i job e (job.advance now) := by
  cases active : job.isActive with
  | false =>
    rw [job.advance_of_not_active now active]
    exact .of_same timed (.refl job) unstarted kept
  | true =>
    have before : job.Stale → s.starts i e = true :=
      fun stale => absurd stale (SimJob.not_stale_of_active active)
    obtain again | none := job.advance_cases now active
    · exact .of_settled (SimJob.timed_of_active again) (SimJob.not_stale_of_active again) before kept
    · exact .of_settled (fun left => absurd none left) (fun stale => stale.left none) before kept

theorem Times.of_obeys {now : Int64} {r : Request} (timed : job.Timed)
    (orders : ∀ name, s.orders name i (.command now r) = (r.name == name))
    (obeys : job.Obeys now s.runState r other) : s.Times i job (.command now r) other := by
  have starts : s.starts i (.command now r) =
      (r.name == "JOB_START" || r.name == "SCHEDULE_TRIGGER") := by
    rw [Server.starts, orders, orders]
  have resets := orders "JOB_RESET"
  cases obeys with
  | told name =>
    have quiet : s.starts i (.command now r) = false ∧
        s.orders "JOB_RESET" i (.command now r) = false := by
      obtain name | name := name <;> simp [starts, resets, name]
    exact .of_same timed (.refl job) quiet.1 quiet.2
  | watched name =>
    split
    · exact .of_advance timed now (by simp [starts, name]) (by simp [resets, name])
    · exact .of_same timed (.refl job) (by simp [starts, name]) (by simp [resets, name])
  | started name idle type | triggered name idle type =>
    have active := fun noStorage dryRun => job.isActive_start type noStorage dryRun
    exact .of_settled (SimJob.timed_of_active (active _ _)) (SimJob.not_stale_of_active (active _ _))
      (fun _ => by simp [starts, name]) (by simp [resets, name])
  | aborted name busy =>
    refine .of_settled (fun left => absurd rfl left) (fun stale => stale.left rfl) (fun stale => ?_)
      (by simp [resets, name])
    obtain active | asks := busy
    · exact absurd active stale.idle
    · exact absurd asks stale.unasked
  | reset name idle =>
    refine ⟨fun _ => .inr (.inr rfl), ?_⟩
    simp only [starts, resets, name]
    constructor
    · intro stale
      obtain active | asks | none := timed stale.left
      · exact absurd (idle.symm.trans active) Bool.false_ne_true
      · exact .inr ⟨rfl, asks, stale.left⟩
      · exact .inl ⟨⟨SimJob.atRest_of_none none, stale.left⟩, rfl⟩
    · rintro (⟨stale, _⟩ | ⟨_, _, left⟩)
      · exact ⟨SimJob.atRest_of_none rfl, stale.left⟩
      · exact ⟨SimJob.atRest_of_none rfl, left⟩
  | loaded name asks =>
    exact .of_settled (SimJob.timed_of_active rfl) (SimJob.not_stale_of_active rfl)
      (fun stale => absurd stale (SimJob.not_stale_of_requestVolume asks)) (by simp [resets, name])
  | unloaded name =>
    rw [unloadVolume]
    split <;> rename_i active
    · exact .of_settled (fun _ => .inr (.inl rfl)) (SimJob.not_stale_of_requestVolume rfl)
        (fun stale => absurd stale (SimJob.not_stale_of_active active)) (by simp [resets, name])
    · exact .of_same timed (.refl job) (by simp [starts, name]) (by simp [resets, name])
  | unlocked name password given =>
    rw [storePassword]
    dsimp only
    split <;> rename_i asks
    · refine .of_settled (SimJob.timed_of_active rfl) (SimJob.not_stale_of_active rfl)
        (fun stale => absurd ?_ stale.unasked) (by simp [resets, name])
      exact congrArg State.hint asks
    · exact .of_same timed ⟨rfl, rfl⟩ (by simp [starts, name]) (by simp [resets, name])

theorem Times.of_moves (timed : job.Timed) (moves : MovesBy SimJob.SameTime s i job e other) :
    s.Times i job e other := by
  cases moves with
  | kept same unordered =>
    exact .of_same timed same (starts_of_unordered unordered) (unordered _ (by decide))
  | ticked _ unordered =>
    exact .of_advance timed _ (starts_of_unordered unordered) (unordered _ (by decide))
  | ordered _ orders obeys => exact .of_obeys timed orders obeys

/-! ## A run -/

def Timed (s : Server) : Prop := ∀ (i : Nat) (job : SimJob), s.jobs[i]? = some job → job.Timed

theorem times_undergo (timed : s.Timed) (untimed : e.Untimed) (i : Nat) :
    (s.undergo e).jobs[i]? = none ∧ s.jobs[i]? = none ∨
    (∃ uuid name state, (s.undergo e).jobs[i]? = some (SimJob.new uuid name state)) ∧
      s.jobs[i]? = none ∨
    ∃ job other, s.jobs[i]? = some job ∧ (s.undergo e).jobs[i]? = some other ∧
      s.Times i job e other := by
  cases before : s.jobs[i]? with
  | some job =>
    obtain ⟨other, there, moves⟩ := movesBy_undergo SimJob.SameTime.refl untimed.keeps before
    exact .inr (.inr ⟨job, other, rfl, there, .of_moves (timed i job before) moves⟩)
  | none =>
    cases after : (s.undergo e).jobs[i]? with
    | none => exact .inl ⟨rfl, rfl⟩
    | some other =>
      obtain ⟨job, here, _⟩ | ⟨uuid, name, state, rfl⟩ := origin_undergo untimed.steady after
      · exact absurd (before.symm.trans here) nofun
      · exact .inr (.inl ⟨⟨uuid, name, state, rfl⟩, rfl⟩)

theorem timed_undergo (timed : s.Timed) (untimed : e.Untimed) : (s.undergo e).Timed := by
  intro i job here
  obtain ⟨none, _⟩ | ⟨⟨uuid, name, state, new⟩, _⟩ | ⟨_, other, _, there, times⟩ :=
    times_undergo timed untimed i
  · exact absurd (none.symm.trans here) nofun
  · obtain rfl := Option.some.inj (new.symm.trans here)
    exact SimJob.timed_new uuid name state
  · obtain rfl := Option.some.inj (there.symm.trans here)
    exact times.timed

theorem isStaleAt_undergo (timed : s.Timed) (untimed : e.Untimed) (i : Nat) :
    (s.undergo e).isStaleAt i ↔ s.isStaleAt i ∧ s.starts i e = false ∨ s.strands i e := by
  rw [isStaleAt, isStaleAt, strands]
  obtain ⟨after, before⟩ | ⟨⟨uuid, name, state, after⟩, before⟩ | ⟨job, other, before, after, times⟩ :=
    times_undergo timed untimed i
  · simp [before, after]
  · have fresh : ¬(SimJob.new uuid name state).Stale := fun stale => stale.left rfl
    simp [before, after, fresh]
  · simp [before, after, times.stale]

theorem timed_run {events : List Event} (timed : s.Timed) (untimed : ∀ e ∈ events, e.Untimed) :
    (s.run events).Timed := by
  induction events generalizing s with
  | nil => exact timed
  | cons e events ih =>
    obtain ⟨first, untimed⟩ := List.forall_mem_cons.mp untimed
    exact ih (timed_undergo timed first) untimed

theorem leavesStranded_cons (s : Server) (i : Nat) (e : Event) (events : List Event) :
    s.LeavesStranded i (e :: events) ↔
      s.strands i e ∧ (∀ moment ∈ (s.undergo e).moments events,
        moment.1.starts i moment.2 = false) ∨
      (s.undergo e).LeavesStranded i events := by
  constructor
  · rintro ⟨_ | ⟨first, before⟩, next, after, same, strands, on⟩
    · obtain ⟨rfl, rfl⟩ := List.cons.inj same
      exact .inl ⟨strands, on⟩
    · obtain ⟨rfl, rfl⟩ := List.cons.inj same
      exact .inr ⟨before, next, after, rfl, strands, on⟩
  · rintro (⟨strands, on⟩ | ⟨before, next, after, rfl, strands, on⟩)
    · exact ⟨[], e, events, rfl, strands, on⟩
    · exact ⟨e :: before, next, after, rfl, strands, on⟩

theorem isStaleAt_run {events : List Event} (timed : s.Timed) (untimed : ∀ e ∈ events, e.Untimed)
    (i : Nat) :
    (s.run events).isStaleAt i ↔
      s.isStaleAt i ∧ (∀ moment ∈ s.moments events, moment.1.starts i moment.2 = false) ∨
      s.LeavesStranded i events := by
  induction events generalizing s with
  | nil => simp [run, moments, LeavesStranded]
  | cons e events ih =>
    obtain ⟨first, untimed⟩ := List.forall_mem_cons.mp untimed
    have later := ih (timed_undergo timed first) untimed
    rw [isStaleAt_undergo timed first] at later
    rw [leavesStranded_cons, moments, List.forall_mem_cons, ← or_assoc, ← and_assoc, ← or_and_right]
    exact later

end

/-! ## From an empty server -/

theorem timed_empty : ({} : Server).Timed := fun _ _ here => nomatch here

/-- Whatever happens to a server that was empty at first, a job that neither makes progress nor waits
for the user has no remaining time, unless it has been reset while it waited for a volume, and not been
started since. Then it is in the state in which a reset has left it. -/
theorem rest_time_exact {events : List Event} (untimed : ∀ e ∈ events, e.Untimed) :
    let s := ({} : Server).run events
    ∀ (i : Nat) (job : SimJob), s.jobs[i]? = some job → job.AtRest →
      (job.snapshot.estimatedRestSeconds = 0 ↔ ¬({} : Server).LeavesStranded i events) ∧
        (job.snapshot.estimatedRestSeconds ≠ 0 → job.snapshot.state = .none) := by
  intro s i job here rests
  have stale := isStaleAt_run timed_empty untimed i
  have never : ¬({} : Server).isStaleAt i := fun ⟨_, here, _⟩ => nomatch here
  simp only [never, false_and, false_or] at stale
  have own : s.isStaleAt i ↔ job.snapshot.estimatedRestSeconds ≠ 0 := by
    constructor
    · rintro ⟨other, there, stale⟩
      obtain rfl := Option.some.inj (there.symm.trans here)
      exact stale.left
    · exact fun left => ⟨job, here, rests, left⟩
  refine ⟨?_, fun left => ?_⟩
  · rw [← stale, own, not_not]
  · exact (timed_run timed_empty untimed i job here).none_of_stale ⟨rests, left⟩

/-- A job is added and started, its volume is unloaded, and then this command is given. -/
def unloadedAnd (name : String) : List Event :=
  .add "a" "alpha" .waiting ::
    ["JOB_START", "VOLUME_UNLOAD", name].map fun name =>
      .command 0 { name, args := [("jobUUID", "a")] }

/-- The job is aborted while it waits for a volume: no time remains, and nothing has stranded it. -/
theorem rest_time_aborted :
    let s := ({} : Server).run (unloadedAnd "JOB_ABORT")
    ∃ job, s.jobs[0]? = some job ∧ job.snapshot.state = .aborted ∧ job.AtRest ∧
      job.snapshot.estimatedRestSeconds = 0 ∧
      ¬({} : Server).LeavesStranded 0 (unloadedAnd "JOB_ABORT") := by
  intro s
  have untimed : ∀ e ∈ unloadedAnd "JOB_ABORT", e.Untimed := by simp [unloadedAnd, Event.Untimed]
  let job : SimJob :=
    { SimJob.new "a" "alpha" .waiting with
      snapshot := { (SimJob.new "a" "alpha" .aborted).snapshot with archiveType := .normal }
      requestedVolume := 1 }
  have here : s.jobs[0]? = some job := by decide +kernel
  have rests : job.AtRest := ⟨nofun, nofun⟩
  exact ⟨job, here, rfl, rests, rfl, (rest_time_exact untimed 0 job here rests).1.mp rfl⟩

/-- The job is reset instead: nothing goes on, and sixteen seconds remain. -/
theorem rest_time_left :
    let s := ({} : Server).run (unloadedAnd "JOB_RESET")
    ∃ job, s.jobs[0]? = some job ∧ job.snapshot.state = .none ∧ job.AtRest ∧
      job.snapshot.estimatedRestSeconds = 16 := by
  intro s
  have states : s.jobs.map (fun job => (job.snapshot.state, job.snapshot.estimatedRestSeconds)) =
      [(.none, 16)] := by decide +kernel
  obtain ⟨job, jobs, told⟩ := List.map_eq_singleton_iff.mp states
  obtain ⟨state, rest⟩ := Prod.mk.inj told
  exact ⟨job, by rw [jobs]; rfl, state, SimJob.atRest_of_none state, rest⟩

end Server

end BackupConsole.Simulation
