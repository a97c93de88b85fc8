import BackupConsole.Proofs.Simulation.Events

set_option autoImplicit false

namespace BackupConsole.Simulation

open Job Wire

/-- The job is not running, and no password makes it run. -/
structure SimJob.Dry (job : SimJob) : Prop where
  idle : job.snapshot.state ≠ .running
  unasked : job.snapshot.state ≠ .requestCryptPassword

theorem SimJob.Dry.of_state {job other : SimJob} (dry : job.Dry)
    (same : other.snapshot.state = job.snapshot.state) : other.Dry :=
  ⟨same ▸ dry.idle, same ▸ dry.unasked⟩

theorem SimJob.Dry.advance {job : SimJob} (dry : job.Dry) (now : Int64) : (job.advance now).Dry := by
  unfold SimJob.advance
  split
  · dsimp only
    split
    · exact ⟨nofun, nofun⟩
    · exact dry.of_state rfl
  · exact dry

theorem dry_start (job : SimJob) (type : ArchiveType) {noStorage dryRun : Bool}
    (dry : dryRun = true ∨ noStorage = true) : (job.start type noStorage dryRun).Dry := by
  have state : (job.start type noStorage dryRun).snapshot.state = .dryRunning ∨
      (job.start type noStorage dryRun).snapshot.state = .noStorage := by
    cases dryRun with
    | true => exact .inl rfl
    | false =>
      obtain impossible | rfl := dry
      · cases impossible
      · exact .inr rfl
  obtain state | state := state
  · exact ⟨by simp [state], by simp [state]⟩
  · exact ⟨by simp [state], by simp [state]⟩

namespace Server

def isRunningAt (s : Server) (i : Nat) : Prop :=
  ∃ job, s.jobs[i]? = some job ∧ job.snapshot.state = .running

section

variable {s : Server} {i : Nat} {job : SimJob} {e : Event}

theorem dry_of_obeys {now : Int64} {r : Request} {other : SimJob} (dry : job.Dry)
    (starts : r.name ≠ "JOB_START" ∧ r.name ≠ "SCHEDULE_TRIGGER") (loads : r.name ≠ "VOLUME_LOAD")
    (obeys : job.Obeys now s.runState r other) : other.Dry := by
  cases obeys with
  | told => exact dry
  | watched =>
    split
    · exact dry.advance now
    · exact dry
  | started name => exact absurd name starts.1
  | triggered name => exact absurd name starts.2
  | aborted | reset => exact ⟨nofun, nofun⟩
  | loaded name => exact absurd name loads
  | unloaded =>
    rw [unloadVolume]
    split
    · exact ⟨nofun, nofun⟩
    · exact dry
  | unlocked _ password =>
    have waits : ({ job with password := some password } : SimJob).snapshot.state ≠
        .requestCryptPassword := dry.unasked
    rw [storePassword]
    dsimp only
    rw [if_neg waits]
    exact dry.of_state rfl

theorem dry_of_moves {other : SimJob} (dry : job.Dry) (starts : s.starts i e = false)
    (loads : s.orders "VOLUME_LOAD" i e = false) (moves : s.Moves i job e other) : other.Dry := by
  cases moves with
  | kept alike => exact dry.of_state alike.state
  | ticked => exact dry.advance _
  | ordered _ orders obeys =>
    rw [Server.starts, orders, orders] at starts
    rw [orders] at loads
    exact dry_of_obeys dry (by simpa using starts) (by simpa using loads) obeys

theorem dry_run {events : List Event} (steady : ∀ e ∈ events, e.Steady)
    (starts : ∀ moment ∈ s.moments events, moment.1.starts i moment.2 = false)
    (loads : ∀ moment ∈ s.moments events, moment.1.orders "VOLUME_LOAD" i moment.2 = false)
    (here : s.jobs[i]? = some job) (dry : job.Dry) :
    ∃ other, (s.run events).jobs[i]? = some other ∧ other.Dry := by
  induction events generalizing s job with
  | nil => exact ⟨job, here, dry⟩
  | cons e events ih =>
    obtain ⟨first, steady⟩ := List.forall_mem_cons.mp steady
    obtain ⟨idle, starts⟩ := List.forall_mem_cons.mp starts
    obtain ⟨unloaded, loads⟩ := List.forall_mem_cons.mp loads
    obtain ⟨other, there, moves⟩ := moves_undergo first here
    exact ih steady starts loads there (dry_of_moves dry idle unloaded moves)

theorem running_of_load (loads : s.orders "VOLUME_LOAD" i e = true) : (s.undergo e).isRunningAt i := by
  obtain ⟨now, r, _, rfl, _⟩ := exists_of_orders loads
  obtain ⟨name, job, other, _, there, obeys⟩ := obeys_of_orders (by decide) loads
  exact ⟨other, there, obeys.of_load name ▸ rfl⟩

theorem dry_of_start {now : Int64} {r : Request}
    (starts : s.orders "JOB_START" i (.command now r) = true)
    (dry : r.get? "dryRun" = some "yes" ∨ r.get? "noStorage" = some "yes") :
    ∃ job, (s.undergo (.command now r)).jobs[i]? = some job ∧ job.Dry := by
  obtain ⟨name, job, other, _, there, obeys⟩ := obeys_of_orders (by decide) starts
  obtain ⟨_, type, rfl⟩ := obeys.of_start name
  exact ⟨_, there, dry_start job type (by simpa using dry)⟩

/-! ## Moments of a run -/

theorem moments_append (s : Server) (before after : List Event) :
    s.moments (before ++ after) = s.moments before ++ (s.run before).moments after := by
  induction before generalizing s with
  | nil => rfl
  | cons e before ih => exact congrArg ((s, e) :: ·) (ih (s.undergo e))

theorem exists_run_of_moment {moment : Server × Event} {events : List Event}
    (mem : moment ∈ s.moments events) :
    ∃ before after, events = before ++ moment.2 :: after ∧ moment.1 = s.run before := by
  induction events generalizing s with
  | nil => cases mem
  | cons first events ih =>
    obtain rfl | mem := List.mem_cons.mp mem
    · exact ⟨[], events, rfl, rfl⟩
    · obtain ⟨before, after, rfl, same⟩ := ih mem
      exact ⟨first :: before, after, rfl, same⟩

end

/-! ## From a dry start on -/

/-- Until it is started again, a job that has been started dry or without storage is running at some
time exactly if a volume is loaded for it. -/
theorem dry_until_loaded {s : Server} {i : Nat} {now : Int64} {r : Request}
    (starts : s.orders "JOB_START" i (.command now r) = true)
    (dry : r.get? "dryRun" = some "yes" ∨ r.get? "noStorage" = some "yes")
    {events : List Event} (steady : ∀ e ∈ events, e.Steady)
    (once : ∀ moment ∈ (s.undergo (.command now r)).moments events,
      moment.1.starts i moment.2 = false) :
    let started := s.undergo (.command now r)
    (∃ before after, events = before ++ after ∧ (started.run before).isRunningAt i) ↔
      ∃ moment ∈ started.moments events, moment.1.orders "VOLUME_LOAD" i moment.2 = true := by
  intro started
  constructor
  · rintro ⟨before, after, rfl, running⟩
    by_contra unloaded
    have part : ∀ moment ∈ started.moments before, moment ∈ started.moments (before ++ after) := by
      rw [moments_append]
      exact fun moment mem => List.mem_append_left _ mem
    obtain ⟨job, here, dry⟩ := dry_of_start starts dry
    obtain ⟨other, there, dry⟩ := dry_run (fun e mem => steady e (List.mem_append_left _ mem))
      (fun moment mem => once moment (part moment mem))
      (fun moment mem => Bool.eq_false_iff.mpr fun loads => unloaded ⟨moment, part moment mem, loads⟩)
      here dry
    obtain ⟨same, found, running⟩ := running
    obtain rfl : other = same := Option.some.inj (there.symm.trans found)
    exact dry.idle running
  · rintro ⟨moment, mem, loads⟩
    obtain ⟨before, after, rfl, same⟩ := exists_run_of_moment mem
    refine ⟨before ++ [moment.2], after, by rw [List.append_assoc, List.singleton_append], ?_⟩
    have running : (moment.1.undergo moment.2).isRunningAt i := running_of_load loads
    rw [same] at running
    rw [run, List.foldl_append]
    exact running

def dryStart : Request :=
  { name := "JOB_START"
    args := [("jobUUID", "a"), ("archiveType", "normal"), ("noStorage", "no"), ("dryRun", "yes")] }

def unloadCall : Request := { name := "VOLUME_UNLOAD", args := [("jobUUID", "a")] }

def loadCall : Request :=
  { name := "VOLUME_LOAD", args := [("jobUUID", "a"), ("volumeNumber", "1")] }

/-- A dry run waits for its volume, is told another one, and is asked for its run state. -/
theorem never_real_without_volume :
    let s : Server := { jobs := [SimJob.new "a" "alpha" .waiting] }
    let started := s.undergo (.command 0 dryStart)
    let events : List Event := [.command 0 unloadCall,
      .command 0 { loadCall with args := [("jobUUID", "a"), ("volumeNumber", "2")] },
      .command 0 { name := "STATUS" }]
    ¬ ∃ before after, events = before ++ after ∧ (started.run before).isRunningAt 0 := by
  intro s started events
  have steady : ∀ e ∈ events, e.Steady := by simp [events, Event.Steady]
  have starts : s.orders "JOB_START" 0 (.command 0 dryStart) = true := by decide +kernel
  have loaded := (dry_until_loaded starts (.inl (by decide)) steady (by decide +kernel)).mp
  exact fun running => absurd (loaded running) (by decide +kernel)

/-- The volume of a dry run is unloaded, and the next one is loaded: the job is running. -/
theorem real_after_volume :
    let s : Server := { jobs := [SimJob.new "a" "alpha" .waiting] }
    let started := s.undergo (.command 0 dryStart)
    let events : List Event := [.command 0 unloadCall, .command 0 loadCall]
    s.orders "JOB_START" 0 (.command 0 dryStart) = true ∧
      dryStart.get? "dryRun" = some "yes" ∧
      (∀ moment ∈ started.moments events, moment.1.starts 0 moment.2 = false) ∧
      (started.run events).isRunningAt 0 := by
  refine ⟨by decide +kernel, by decide, by decide +kernel, ?_⟩
  exact ⟨_, rfl, by decide +kernel⟩

end Server

end BackupConsole.Simulation
