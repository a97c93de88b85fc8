import BackupConsole.Proofs.Simulation.Events

set_option autoImplicit false

namespace BackupConsole.Simulation

open Job Wire

/-! ## Counted entries -/

namespace SimJob

/-- The job is active, or waits for something with which it goes on from where it is. -/
def underWay (job : SimJob) : Prop :=
  job.isActive = true ∨ job.snapshot.state = .requestVolume ∨ job.snapshot.state = .requestCryptPassword

/-- The job has made some whole steps, but not all of them while it is under way. -/
structure Sound (job : SimJob) : Prop where
  total : job.totalCount = 400
  whole : entriesPerStep ∣ job.doneCount
  bounded : job.doneCount ≤ job.totalCount
  unfinished : job.underWay → job.doneCount < job.totalCount

theorem sound_new (uuid name : String) (state : State) : (SimJob.new uuid name state).Sound :=
  ⟨rfl, Nat.dvd_zero _, Nat.zero_le _, fun _ => (by decide : 0 < 400)⟩

theorem Sound.fits {job : SimJob} (sound : job.Sound) (going : job.underWay) :
    job.doneCount + entriesPerStep ≤ job.totalCount := by
  obtain ⟨total, ⟨steps, whole⟩, _, unfinished⟩ := sound
  have before := unfinished going
  rw [entriesPerStep] at whole ⊢
  omega

theorem Sound.advance_of_active {job : SimJob} (sound : job.Sound) (active : job.isActive = true)
    (now : Int64) :
    (job.advance now).totalCount = job.totalCount ∧
      (job.advance now).doneCount = job.doneCount + entriesPerStep ∧
      (job.advance now).snapshot.state =
        if job.doneCount + entriesPerStep = job.totalCount then .done else job.snapshot.state := by
  have fits := sound.fits (.inl active)
  rw [advance, if_pos active, Nat.min_eq_left fits]
  dsimp only
  by_cases last : job.doneCount + entriesPerStep = job.totalCount
  · rw [if_pos (Nat.sub_eq_zero_of_le last.ge), if_pos last]
    exact ⟨rfl, rfl, rfl⟩
  · have more : job.totalCount - (job.doneCount + entriesPerStep) ≠ 0 := by omega
    rw [if_neg more, if_neg last]
    exact ⟨rfl, rfl, rfl⟩

theorem Sound.advance {job : SimJob} (sound : job.Sound) (now : Int64) : (job.advance now).Sound := by
  cases active : job.isActive with
  | false =>
    rw [job.advance_of_not_active now active]
    exact sound
  | true =>
    have fits := sound.fits (.inl active)
    obtain ⟨total, count, state⟩ := sound.advance_of_active active now
    obtain ⟨all, ⟨steps, whole⟩, _, _⟩ := sound
    have whole : (job.advance now).doneCount = entriesPerStep * (steps + 1) := by
      rw [count, whole, Nat.mul_succ]
    refine ⟨total.trans all, ⟨steps + 1, whole⟩, by rwa [total, count], fun again => ?_⟩
    rw [total, count]
    refine Nat.lt_of_le_of_ne fits fun last => ?_
    rw [if_pos last] at state
    simp [underWay, isActive, state, State.isActive] at again

theorem Sound.of_same {job other : SimJob} (sound : job.Sound)
    (total : other.totalCount = job.totalCount) (count : other.doneCount = job.doneCount)
    (still : other.underWay → job.underWay) : other.Sound := by
  obtain ⟨all, whole, bounded, unfinished⟩ := sound
  exact ⟨total.trans all, count ▸ whole, by rwa [count, total],
    fun again => by rw [count, total]; exact unfinished (still again)⟩

theorem Sound.of_zero {job other : SimJob} (sound : job.Sound)
    (total : other.totalCount = job.totalCount) (count : other.doneCount = 0) : other.Sound := by
  have all : other.totalCount = 400 := total.trans sound.total
  exact ⟨all, count ▸ Nat.dvd_zero _, by omega, fun _ => by omega⟩

end SimJob

namespace Server

/-! ## One event -/

def interrupts (s : Server) (i : Nat) (e : Event) : Bool :=
  s.orders "JOB_ABORT" i e || s.orders "VOLUME_UNLOAD" i e

/-- What an event does to the progress of the job at a place. -/
structure Steps (s : Server) (i : Nat) (job : SimJob) (e : Event) (other : SimJob) : Prop where
  sound : other.Sound
  total : other.totalCount = job.totalCount
  count : other.doneCount =
    if s.restarts i e then 0
    else if s.progresses i e && job.isActive then job.doneCount + entriesPerStep
    else job.doneCount
  finishes : job.snapshot.state ≠ .done →
    (other.snapshot.state = .done ↔
      s.progresses i e = true ∧ job.isActive = true ∧ other.doneCount = other.totalCount)
  stays : job.snapshot.state = .done → s.restarts i e = false → other.snapshot.state = .done
  begins : s.starts i e = true → other.isActive = true
  goesOn : job.isActive = true → s.interrupts i e = false →
    other.isActive = true ∨ other.snapshot.state = .done

section

variable {s : Server} {i : Nat} {job : SimJob} {e : Event}

theorem not_done_of_active (active : job.isActive = true) : job.snapshot.state ≠ .done := by
  intro done
  rw [SimJob.isActive, done] at active
  cases active

theorem starts_eq_false (restarts : s.restarts i e = false) : s.starts i e = false :=
  (Bool.or_eq_false_iff.mp restarts).1

theorem restarts_eq_false (unordered : ∀ name ∈ jobCommands, s.orders name i e = false) :
    s.restarts i e = false := by
  rw [restarts, starts_of_unordered unordered, unordered _ (by decide)]
  rfl

theorem Steps.of_same {other : SimJob} (sound : job.Sound) (total : other.totalCount = job.totalCount)
    (count : other.doneCount = job.doneCount) (still : other.underWay → job.underWay)
    (restarts : s.restarts i e = false) (progresses : s.progresses i e = false)
    (done : other.snapshot.state = .done ↔ job.snapshot.state = .done)
    (goesOn : job.isActive = true → s.interrupts i e = false → other.isActive = true) :
    s.Steps i job e other where
  sound := sound.of_same total count still
  total := total
  count := by simp [restarts, progresses, count]
  finishes := fun undone => by simp [progresses, done, undone]
  stays := fun finished _ => done.mpr finished
  begins := fun starts => by simp [starts_eq_false restarts] at starts
  goesOn := fun active goes => .inl (goesOn active goes)

theorem Steps.of_advance (sound : job.Sound) (now : Int64) (restarts : s.restarts i e = false)
    (progresses : s.progresses i e = true) : s.Steps i job e (job.advance now) := by
  have begins : s.starts i e = true → (job.advance now).isActive = true :=
    fun starts => by simp [starts_eq_false restarts] at starts
  cases active : job.isActive with
  | false =>
    rw [job.advance_of_not_active now active] at begins ⊢
    exact ⟨sound, rfl, by simp [restarts, active], by simp [active], fun done _ => done, begins,
      fun impossible => by simp [active] at impossible⟩
  | true =>
    obtain ⟨total, count, state⟩ := sound.advance_of_active active now
    refine ⟨sound.advance now, total, by simp [restarts, progresses, active, count], ?_, ?_, begins, ?_⟩
    · intro undone
      rw [state, total, count]
      simp [progresses, active, undone]
    · exact fun done => absurd done (not_done_of_active active)
    · intro _ _
      split at state
      · exact .inr state
      · rw [SimJob.isActive, state]
        exact .inl active

theorem Steps.of_restart {other : SimJob} (sound : job.Sound)
    (total : other.totalCount = job.totalCount) (count : other.doneCount = 0)
    (restarts : s.restarts i e = true) (progresses : s.progresses i e = false)
    (idle : job.isActive = false) (undone : other.snapshot.state ≠ .done)
    (begins : s.starts i e = true → other.isActive = true) : s.Steps i job e other where
  sound := sound.of_zero total count
  total := total
  count := by simp [restarts, count]
  finishes := fun _ => by simp [progresses, undone]
  stays := fun _ stays => by simp [restarts] at stays
  begins := begins
  goesOn := fun active => by simp [idle] at active

theorem Steps.of_obeys {now : Int64} {r : Request} {other : SimJob} (sound : job.Sound)
    (known : r.name ∈ jobCommands)
    (orders : ∀ name, s.orders name i (.command now r) = (r.name == name))
    (obeys : job.Obeys now s.runState r other) : s.Steps i job (.command now r) other := by
  have elsewhere : r.name ≠ "STATUS" := fun same => absurd (same ▸ known) (by decide)
  have restarts : s.restarts i (.command now r) =
      (r.name == "JOB_START" || r.name == "SCHEDULE_TRIGGER" || r.name == "JOB_RESET") := by
    rw [Server.restarts, starts, orders, orders, orders]
  have progresses : s.progresses i (.command now r) =
      (s.runState == .running && r.name == "JOB_INFO") := by
    rw [Server.progresses, ticks_of_ne elsewhere, orders, Bool.false_or]
  cases obeys with
  | told name =>
    have quiet : s.restarts i (.command now r) = false ∧ s.progresses i (.command now r) = false := by
      obtain name | name := name <;> simp [restarts, progresses, name]
    exact .of_same sound rfl rfl id quiet.1 quiet.2 Iff.rfl fun active _ => active
  | watched name =>
    split <;> rename_i running
    · exact .of_advance sound now (by simp [restarts, name]) (by simp [progresses, name, running])
    · exact .of_same sound rfl rfl id (by simp [restarts, name]) (by simp [progresses, running])
        Iff.rfl fun active _ => active
  | started name idle type | triggered name idle type =>
    have active := fun noStorage dryRun => job.isActive_start type noStorage dryRun
    exact .of_restart sound rfl rfl (by simp [restarts, name]) (by simp [progresses, name]) idle
      (not_done_of_active (active _ _)) fun _ => active _ _
  | aborted name busy =>
    refine .of_same sound rfl rfl ?_ (by simp [restarts, name]) (by simp [progresses, name]) ?_ ?_
    · intro again
      simp [SimJob.underWay, SimJob.isActive, State.isActive] at again
    · have undone : job.snapshot.state ≠ .done := fun done => by
        simp [Snapshot.hint, done, State.hint] at busy
      simp [undone]
    · intro _ goes
      simp [interrupts, orders, name] at goes
  | reset name idle =>
    exact .of_restart sound rfl rfl (by simp [restarts, name]) (by simp [progresses, name]) idle
      (by simp [SimJob.setState]) fun starts => by simp [Server.starts, orders, name] at starts
  | loaded name asks =>
    refine .of_same sound rfl rfl (fun _ => .inr (.inl asks)) (by simp [restarts, name])
      (by simp [progresses, name]) ?_ (fun _ _ => rfl)
    simp [SimJob.setState, asks]
  | unloaded name =>
    rw [unloadVolume]
    split <;> rename_i active
    · refine .of_same sound rfl rfl (fun _ => .inl active) (by simp [restarts, name])
        (by simp [progresses, name]) ?_ fun _ goes => by simp [interrupts, orders, name] at goes
      simp [SimJob.setState, not_done_of_active active]
    · exact .of_same sound rfl rfl id (by simp [restarts, name]) (by simp [progresses, name]) Iff.rfl
        fun active _ => active
  | unlocked name password given =>
    rw [storePassword]
    dsimp only
    split <;> rename_i asks
    · refine .of_same sound rfl rfl (fun _ => .inr (.inr asks)) (by simp [restarts, name])
        (by simp [progresses, name]) ?_ fun _ _ => rfl
      simp [SimJob.setState, asks]
    · exact .of_same sound rfl rfl id (by simp [restarts, name]) (by simp [progresses, name]) Iff.rfl
        fun active _ => active

theorem Steps.of_moves {other : SimJob} (sound : job.Sound) (moves : s.Moves i job e other) :
    s.Steps i job e other := by
  cases moves with
  | kept alike unordered still =>
    obtain ⟨state, count, total⟩ := alike
    have progresses : s.progresses i e = false := by
      rw [Server.progresses, still, unordered _ (by decide), Bool.and_false, Bool.or_false]
    have active : other.isActive = job.isActive := congrArg State.isActive state
    refine .of_same sound total count ?_ (restarts_eq_false unordered) progresses ?_ ?_
    · rw [SimJob.underWay, SimJob.underWay, active, state]
      exact id
    · rw [state]
    · exact fun before _ => active.trans before
  | @ticked now r ticks unordered =>
    have progresses : s.progresses i (.command now r) = true := by
      rw [Server.progresses, ticks, Bool.true_or]
    exact .of_advance sound now (restarts_eq_false unordered) progresses
  | ordered known orders obeys => exact .of_obeys sound known orders obeys

/-! ## A run -/

def Sound (s : Server) : Prop := ∀ (i : Nat) (job : SimJob), s.jobs[i]? = some job → job.Sound

theorem sound_undergo (sound : s.Sound) (steady : e.Steady) : (s.undergo e).Sound := by
  intro i other here
  obtain ⟨job, before, moves⟩ | ⟨uuid, name, state, rfl⟩ := origin_undergo steady here
  · exact (Steps.of_moves (sound i job before) moves).sound
  · exact SimJob.sound_new uuid name state

theorem sound_run {events : List Event} (sound : s.Sound) (steady : ∀ e ∈ events, e.Steady) :
    (s.run events).Sound := by
  induction events generalizing s with
  | nil => exact sound
  | cons e events ih =>
    obtain ⟨first, steady⟩ := List.forall_mem_cons.mp steady
    exact ih (sound_undergo sound first) steady

theorem steps_undergo (sound : s.Sound) (steady : e.Steady) (here : s.jobs[i]? = some job) :
    ∃ other, (s.undergo e).jobs[i]? = some other ∧ s.Steps i job e other := by
  obtain ⟨other, there, moves⟩ := moves_undergo steady here
  exact ⟨other, there, .of_moves (sound i job here) moves⟩

theorem started_undergo (sound : s.Sound) (starts : s.starts i e = true) :
    e.Steady ∧ ∃ job, (s.undergo e).jobs[i]? = some job ∧ job.isActive = true ∧ job.doneCount = 0 := by
  have ordered : ∃ name, s.orders name i e = true := by
    obtain orders | orders := (Bool.or_eq_true ..).mp starts
    · exact ⟨_, orders⟩
    · exact ⟨_, orders⟩
  obtain ⟨name, orders⟩ := ordered
  obtain ⟨now, r, job, rfl, _, _, _, here⟩ := exists_of_orders orders
  obtain ⟨other, there, steps⟩ := steps_undergo (e := .command now r) sound trivial here
  have count := steps.count
  rw [restarts, starts] at count
  exact ⟨trivial, other, there, steps.begins starts, count⟩

end

/-! ## Steps of a run -/

def isActiveAt (s : Server) (i : Nat) : Bool := (s.jobs[i]?).any SimJob.isActive

/-- How often the job at this place has the occasion to make a step. -/
def occasions (s : Server) (i : Nat) (events : List Event) : Nat :=
  (s.moments events).countP fun moment => moment.1.progresses i moment.2

/-- How many steps the job at this place makes: one at each occasion at which it is active. -/
def steps (s : Server) (i : Nat) (events : List Event) : Nat :=
  (s.moments events).countP fun moment => moment.1.progresses i moment.2 && moment.1.isActiveAt i

theorem occasions_cons (s : Server) (i : Nat) (e : Event) (events : List Event) :
    s.occasions i (e :: events) =
      (s.undergo e).occasions i events + if s.progresses i e then 1 else 0 := List.countP_cons

theorem steps_cons (s : Server) (i : Nat) (e : Event) (events : List Event) :
    s.steps i (e :: events) =
      (s.undergo e).steps i events + if s.progresses i e && s.isActiveAt i then 1 else 0 :=
  List.countP_cons

theorem isActiveAt_of_here {s : Server} {i : Nat} {job : SimJob} (here : s.jobs[i]? = some job) :
    s.isActiveAt i = job.isActive := by
  rw [isActiveAt, here, Option.any_some]

section

variable {s : Server} {i : Nat} {job : SimJob} {events : List Event} (sound : s.Sound)
  (steady : ∀ e ∈ events, e.Steady)
  (on : ∀ moment ∈ s.moments events, moment.1.restarts i moment.2 = false)

include sound steady on

/-- As long as the job does not begin again, its steps add up, and it is done when none is left. -/
theorem counted_run (here : s.jobs[i]? = some job)
    (finished : job.snapshot.state = .done ↔ job.doneCount = job.totalCount) :
    ∃ other, (s.run events).jobs[i]? = some other ∧
      other.doneCount = job.doneCount + entriesPerStep * s.steps i events ∧
      (other.snapshot.state = .done ↔ other.doneCount = job.totalCount) := by
  induction events generalizing s job with
  | nil => exact ⟨job, here, rfl, finished⟩
  | cons e events ih =>
    obtain ⟨first, steady⟩ := List.forall_mem_cons.mp steady
    obtain ⟨stays, on⟩ := List.forall_mem_cons.mp on
    obtain ⟨next, there, step⟩ := steps_undergo sound first here
    have count := step.count
    rw [stays, if_neg Bool.false_ne_true] at count
    have finished : next.snapshot.state = .done ↔ next.doneCount = next.totalCount := by
      by_cases done : job.snapshot.state = .done
      · have idle : job.isActive = false := by
          rw [SimJob.isActive, done]
          rfl
        rw [idle, Bool.and_false, if_neg Bool.false_ne_true] at count
        rw [count, step.total]
        exact iff_of_true (step.stays done stays) (finished.mp done)
      · refine (step.finishes done).trans ⟨fun last => last.2.2, fun last => ?_⟩
        by_cases moves : (s.progresses i e && job.isActive) = true
        · obtain ⟨occasion, active⟩ := (Bool.and_eq_true ..).mp moves
          exact ⟨occasion, active, last⟩
        · rw [if_neg moves] at count
          exact absurd (finished.mpr (count.symm.trans (last.trans step.total))) done
    obtain ⟨other, ends, counts, state⟩ := ih (sound_undergo sound first) steady on there finished
    refine ⟨other, ends, ?_, step.total ▸ state⟩
    rw [counts, count, steps_cons, isActiveAt_of_here here]
    split
    · rw [Nat.mul_succ, Nat.add_assoc, Nat.add_comm entriesPerStep]
    · rfl

/-- A job that is not interrupted makes a step at every occasion until it is done. -/
theorem uninterrupted_run (here : s.jobs[i]? = some job)
    (goes : job.isActive = true ∨ job.snapshot.state = .done)
    (finished : job.snapshot.state = .done → job.doneCount = job.totalCount)
    (free : ∀ moment ∈ s.moments events, moment.1.interrupts i moment.2 = false) :
    entriesPerStep * s.steps i events =
      min (job.totalCount - job.doneCount) (entriesPerStep * s.occasions i events) := by
  induction events generalizing s job with
  | nil => exact (Nat.min_eq_right (Nat.zero_le _)).symm
  | cons e events ih =>
    obtain ⟨first, steady⟩ := List.forall_mem_cons.mp steady
    obtain ⟨stays, on⟩ := List.forall_mem_cons.mp on
    obtain ⟨goesOn, free⟩ := List.forall_mem_cons.mp free
    obtain ⟨next, there, step⟩ := steps_undergo sound first here
    have count := step.count
    rw [stays, if_neg Bool.false_ne_true] at count
    have rest := ih (sound_undergo sound first) steady on there
    rw [steps_cons, occasions_cons, isActiveAt_of_here here, Nat.mul_add, Nat.mul_add]
    obtain active | done := goes
    · have rest := rest (step.goesOn active goesOn)
        (fun done => ((step.finishes (not_done_of_active active)).mp done).2.2) free
      have fits := (sound i job here).fits (.inl active)
      rw [active, Bool.and_true] at count ⊢
      rw [rest, step.total, count]
      split <;> simp only [entriesPerStep] at fits ⊢ <;> omega
    · have idle : job.isActive = false := by
        rw [SimJob.isActive, done]
        rfl
      rw [idle, Bool.and_false, if_neg Bool.false_ne_true] at count ⊢
      have ended : next.totalCount - next.doneCount = 0 := by
        rw [count, step.total, finished done, Nat.sub_self]
      have none := rest (.inr (step.stays done stays))
        (fun _ => by rw [count, step.total, finished done]) free
      rw [none, ended, finished done, Nat.sub_self, Nat.zero_min, Nat.zero_min]
      rfl

end

/-! ## From an empty server -/

theorem sound_empty : ({} : Server).Sound := fun _ _ here => nomatch here

/-- How the jobs of a server that was empty at first are counted: within bounds at all times, by what
each event does to each of them, and from a start on. -/
theorem progress_exact {events : List Event} (steady : ∀ e ∈ events, e.Steady) :
    let s := ({} : Server).run events
    (∀ job ∈ s.jobs, job.doneCount ≤ job.totalCount ∧
        (job.isActive = true → job.doneCount < job.totalCount)) ∧
      (∀ e, e.Steady → ∀ i job, s.jobs[i]? = some job →
        ∃ next, (s.undergo e).jobs[i]? = some next ∧ next.totalCount = job.totalCount ∧
          next.doneCount =
            (if s.restarts i e then 0
            else if s.progresses i e && job.isActive then job.doneCount + 25
            else job.doneCount) ∧
          (job.snapshot.state ≠ .done →
            (next.snapshot.state = .done ↔
              s.progresses i e = true ∧ job.isActive = true ∧ next.doneCount = next.totalCount))) ∧
      ∀ i e, s.starts i e = true → ∀ more, (∀ e ∈ more, e.Steady) →
        let started := s.undergo e
        (∀ moment ∈ started.moments more, moment.1.restarts i moment.2 = false) →
        ∃ job, (started.run more).jobs[i]? = some job ∧
          job.doneCount = 25 * started.steps i more ∧
          (job.snapshot.state = .done ↔ started.steps i more = 16) ∧
          ((∀ moment ∈ started.moments more, moment.1.interrupts i moment.2 = false) →
            started.steps i more = min 16 (started.occasions i more)) := by
  intro s
  have sound : s.Sound := sound_run sound_empty steady
  refine ⟨fun job mem => ?_, fun e steady i job here => ?_, ?_⟩
  · obtain ⟨i, here⟩ := List.mem_iff_getElem?.mp mem
    obtain ⟨_, _, bounded, unfinished⟩ := sound i job here
    exact ⟨bounded, fun active => unfinished (.inl active)⟩
  · obtain ⟨next, there, step⟩ := steps_undergo sound steady here
    exact ⟨next, there, step.total, step.count, step.finishes⟩
  · intro i e starts more steady started on
    obtain ⟨first, job, here, active, count⟩ := started_undergo sound starts
    have sound : started.Sound := sound_undergo sound first
    have total : job.totalCount = 400 := (sound i job here).total
    have undone := not_done_of_active active
    obtain ⟨other, there, counts, finished⟩ := counted_run sound steady on here
      (iff_of_false undone (by omega))
    rw [count, Nat.zero_add] at counts
    rw [entriesPerStep] at counts
    refine ⟨other, there, counts, finished.trans (by omega), fun free => ?_⟩
    have all := uninterrupted_run sound steady on here (.inl active) (fun done => absurd done undone)
      free
    rw [entriesPerStep] at all
    omega

/-- A job is started, and the server is asked for its run state and for the progress of the job. -/
theorem done_after_sixteen :
    let start := Event.command 0 { name := "JOB_START", args := [("jobUUID", "a"), ("dryRun", "yes")] }
    let started := (({} : Server).run [.add "a" "alpha" .waiting]).undergo start
    let asked := List.replicate 9 (.command 0 { name := "STATUS" }) ++
      List.replicate 7 (.command 0 { name := "JOB_INFO", args := [("jobUUID", "a")] })
    ∃ job, (started.run asked).jobs[0]? = some job ∧ job.doneCount = 400 ∧
      job.snapshot.state = .done := by
  intro start started asked
  have steady : ∀ e ∈ [Event.add "a" "alpha" .waiting], e.Steady :=
    List.forall_mem_singleton.mpr trivial
  have quiet : ∀ e ∈ asked, e.Steady := by
    rw [List.forall_mem_append]
    exact ⟨fun e mem => List.eq_of_mem_replicate mem ▸ trivial,
      fun e mem => List.eq_of_mem_replicate mem ▸ trivial⟩
  obtain ⟨job, here, count, done, all⟩ :=
    (progress_exact steady).2.2 0 start (by decide +kernel) asked quiet (by decide +kernel)
  have steps : started.steps 0 asked = 16 := (all (by decide +kernel)).trans (by decide +kernel)
  exact ⟨job, here, by rw [count, steps], done.mpr steps⟩

end Server

end BackupConsole.Simulation
