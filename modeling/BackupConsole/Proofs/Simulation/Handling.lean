import BackupConsole.Proofs.Simulation.Tidy

set_option autoImplicit false

namespace BackupConsole.Simulation

open Job Wire

def jobCommands : List String :=
  ["JOB_STATUS", "JOB_INFO", "SCHEDULE_LIST", "SCHEDULE_TRIGGER", "JOB_START", "JOB_ABORT",
    "JOB_RESET", "VOLUME_LOAD", "VOLUME_UNLOAD", "CRYPT_PASSWORD"]

theorem not_switches_of_known {name : String} (known : name ∈ jobCommands) :
    name ∉ ["PAUSE", "SUSPEND", "CONTINUE"] :=
  (by decide : ∀ name ∈ jobCommands, name ∉ ["PAUSE", "SUSPEND", "CONTINUE"]) name known

/-! ## Commands about a job -/

/-- What an accepted command makes of the job that it is about. -/
inductive SimJob.Obeys (now : Int64) (runState : RunState) (r : Request) (job : SimJob) :
    SimJob → Prop where
  | told (name : r.name = "JOB_STATUS" ∨ r.name = "SCHEDULE_LIST") : Obeys now runState r job job
  | watched (name : r.name = "JOB_INFO") :
      Obeys now runState r job (if runState = .running then job.advance now else job)
  | started (name : r.name = "JOB_START") (idle : job.isActive = false) (type : ArchiveType) :
      Obeys now runState r job
        (job.start type (r.get? "noStorage" == some "yes") (r.get? "dryRun" == some "yes"))
  | triggered (name : r.name = "SCHEDULE_TRIGGER") (idle : job.isActive = false)
      (type : ArchiveType) : Obeys now runState r job (job.start type false false)
  | aborted (name : r.name = "JOB_ABORT")
      (busy : job.snapshot.hint = .active ∨ job.snapshot.hint = .needsAttention) :
      Obeys now runState r job
        { job with snapshot := { job.snapshot with state := .aborted, estimatedRestSeconds := 0 } }
  | reset (name : r.name = "JOB_RESET") (idle : job.isActive = false) :
      Obeys now runState r job { job.setState .none with doneCount := 0, password := none }
  | loaded (name : r.name = "VOLUME_LOAD") (asks : job.snapshot.state = .requestVolume) :
      Obeys now runState r job { job.setState .running with volumeNumber := job.requestedVolume }
  | unloaded (name : r.name = "VOLUME_UNLOAD") : Obeys now runState r job (Server.unloadVolume job)
  | unlocked (name : r.name = "CRYPT_PASSWORD") (password : String)
      (given : Server.password? r = some password) :
      Obeys now runState r job (Server.storePassword job password)

section

variable {now : Int64} {runState : RunState} {r : Request} (job : SimJob)

theorem obeys_triggerJob (name : r.name = "SCHEDULE_TRIGGER") (schedule : String) :
    Leaves (job.Obeys now runState r) (Server.triggerJob job schedule) := by
  unfold Server.triggerJob
  split
  · exact .rejected _
  · split
    · exact .rejected _
    · rename_i idle
      exact .accepted (.triggered name (Bool.not_eq_true _ ▸ idle) _)

theorem obeys_startJob (name : r.name = "JOB_START") (type : ArchiveType) :
    Leaves (job.Obeys now runState r)
      (Server.startJob job type (r.get? "noStorage" == some "yes") (r.get? "dryRun" == some "yes")) := by
  unfold Server.startJob
  split
  · exact .rejected _
  · rename_i idle
    split
    · exact .rejected _
    · exact .accepted (.started name (Bool.not_eq_true _ ▸ idle) type)

theorem obeys_abortJob (name : r.name = "JOB_ABORT") :
    Leaves (job.Obeys now runState r) (Server.abortJob job) := by
  unfold Server.abortJob
  split
  · rename_i busy
    exact .accepted (.aborted name busy)
  · exact .rejected _

theorem obeys_resetJob (name : r.name = "JOB_RESET") :
    Leaves (job.Obeys now runState r) (Server.resetJob job) := by
  unfold Server.resetJob
  split
  · exact .rejected _
  · rename_i idle
    exact .accepted (.reset name (Bool.not_eq_true _ ▸ idle))

theorem obeys_loadVolume (name : r.name = "VOLUME_LOAD") (number : UInt32) :
    Leaves (job.Obeys now runState r) (Server.loadVolume job number) := by
  unfold Server.loadVolume
  split
  · exact .rejected _
  · rename_i fits
    obtain ⟨asks, rfl⟩ : job.snapshot.state = .requestVolume ∧ number = job.requestedVolume := by
      simpa using fits
    exact .accepted (.loaded name asks)

end

/-! ### Single commands -/

section

variable {now : Int64} {runState : RunState} {r : Request} {job other : SimJob}

theorem SimJob.Obeys.of_start (obeys : job.Obeys now runState r other)
    (named : r.name = "JOB_START") :
    job.isActive = false ∧ ∃ type, other =
      job.start type (r.get? "noStorage" == some "yes") (r.get? "dryRun" == some "yes") := by
  cases obeys with
  | started _ idle type => exact ⟨idle, type, rfl⟩
  | told same | watched same | triggered same | aborted same | reset same | loaded same
  | unloaded same | unlocked same => simp [named] at same

theorem SimJob.Obeys.of_load (obeys : job.Obeys now runState r other)
    (named : r.name = "VOLUME_LOAD") :
    other = { job.setState .running with volumeNumber := job.requestedVolume } := by
  cases obeys with
  | loaded => rfl
  | told same | watched same | started same | triggered same | aborted same | reset same
  | unloaded same | unlocked same => simp [named] at same

theorem SimJob.Obeys.of_password (obeys : job.Obeys now runState r other)
    (named : r.name = "CRYPT_PASSWORD") :
    ∃ password, Server.password? r = some password ∧ other = Server.storePassword job password := by
  cases obeys with
  | unlocked _ password given => exact ⟨password, given, rfl⟩
  | told same | watched same | started same | triggered same | aborted same | reset same
  | loaded same | unloaded same => simp [named] at same

end

namespace Server

/-! ## The place of a job -/

def place? (s : Server) (uuid : String) : Option Nat :=
  s.jobs.findIdx? fun job => job.snapshot.uuid == uuid

theorem setFirst_eq_set {uuid : String} {job : SimJob} {jobs : List SimJob} {i : Nat}
    (place : jobs.findIdx? (fun job => job.snapshot.uuid == uuid) = some i) :
    setFirst uuid job jobs = jobs.set i job := by
  induction jobs generalizing i with
  | nil => cases place
  | cons first rest ih =>
    rw [List.findIdx?_cons] at place
    rw [setFirst]
    by_cases own : first.snapshot.uuid = uuid
    · rw [if_pos (by simpa using own)] at place
      cases place
      rw [if_pos own, List.set_cons_zero]
    · rw [if_neg (by simpa using own)] at place
      obtain ⟨j, found, rfl⟩ := Option.map_eq_some_iff.mp place
      rw [if_neg own, List.set_cons_succ, ih found]

theorem exists_place {s : Server} {uuid : String} {job : SimJob} (found : s.findJob? uuid = some job) :
    ∃ i, s.place? uuid = some i ∧ s.jobs[i]? = some job := by
  obtain ⟨own, i, inside, same, others⟩ := List.find?_eq_some_iff_getElem.mp found
  refine ⟨i, List.findIdx?_eq_some_iff_getElem.mpr ⟨inside, ?_, fun j before => ?_⟩, ?_⟩
  · rw [same]
    exact own
  · simpa using others j before
  · rw [List.getElem?_eq_getElem inside, same]

theorem findJob?_of_place {s : Server} {uuid : String} {i : Nat} {job : SimJob}
    (place : s.place? uuid = some i) (here : s.jobs[i]? = some job) : s.findJob? uuid = some job := by
  obtain ⟨inside, own, others⟩ := List.findIdx?_eq_some_iff_getElem.mp place
  obtain ⟨_, rfl⟩ := List.getElem?_eq_some_iff.mp here
  exact List.find?_eq_some_iff_getElem.mpr ⟨own, i, inside, rfl, by simpa using others⟩

/-! ## Accepted commands -/

/-- What an accepted command makes of the server. -/
inductive Handles (now : Int64) (s : Server) (r : Request) : Server → Prop where
  | listed (name : r.name = "JOB_LIST") : Handles now s r s
  | stated (name : r.name = "STATUS") : Handles now s r (s.status now)
  | switched (name : r.name ∈ ["PAUSE", "SUSPEND", "CONTINUE"]) (runState : RunState) :
      Handles now s r { s with runState }
  | ordered (name : r.name ∈ jobCommands) (i : Nat) (place : s.place? (jobUUID r) = some i)
      (job other : SimJob) (here : s.jobs[i]? = some job) (obeys : job.Obeys now s.runState r other) :
      Handles now s r { s with jobs := s.jobs.set i other }

section

variable {now : Int64} {s : Server} {r : Request}

theorem handles_onJob {act : SimJob → Except Rejection (List String × SimJob)}
    (name : r.name ∈ jobCommands) (acts : ∀ job, Leaves (job.Obeys now s.runState r) (act job)) :
    Leaves (s.Handles now r) (s.onJob r act) := by
  unfold onJob
  dsimp only
  split
  · exact .rejected _
  · rename_i job found
    have leaves := acts job
    split
    · exact .rejected _
    · rename_i rows other acted
      rw [acted] at leaves
      obtain ⟨i, place, here⟩ := exists_place found
      cases leaves with
      | accepted obeys =>
        rw [setJob, setFirst_eq_set place]
        exact .accepted (.ordered name i place job other here obeys)

theorem handles_handle (now : Int64) (s : Server) (r : Request) :
    Leaves (s.Handles now r) (s.handle now r) := by
  have about {name : String} (named : r.name = name) (listed : name ∈ jobCommands) :
      r.name ∈ jobCommands := named ▸ listed
  unfold handle
  split <;> rename_i name
  · exact .accepted (.listed name)
  · exact .accepted (.stated name)
  · exact handles_onJob (about name (by decide)) fun job => .accepted (.told (.inl name))
  · exact handles_onJob (about name (by decide)) fun job => .accepted (.watched name)
  · exact handles_onJob (about name (by decide)) fun job => .accepted (.told (.inr name))
  · exact handles_onJob (about name (by decide)) fun job => obeys_triggerJob job name _
  · dsimp only
    split
    · exact .rejected _
    · exact handles_onJob (about name (by decide)) fun job => obeys_startJob job name _
  · exact handles_onJob (about name (by decide)) fun job => obeys_abortJob job name
  · exact handles_onJob (about name (by decide)) fun job => obeys_resetJob job name
  · split
    · exact .rejected _
    · split
      · exact .rejected _
      · exact .accepted (.switched (by simp [name]) _)
  · exact .accepted (.switched (by simp [name]) _)
  · exact .accepted (.switched (by simp [name]) _)
  · split
    · exact .rejected _
    · exact handles_onJob (about name (by decide)) fun job => obeys_loadVolume job name _
  · exact handles_onJob (about name (by decide)) fun job => .accepted (.unloaded name)
  · split
    · exact .rejected _
    · split
      · exact .rejected _
      · rename_i password given
        exact handles_onJob (about name (by decide)) fun job => .accepted (.unlocked name password given)
  · exact .rejected _

end

/-! ## Failures that wait -/

def pending? (s : Server) (command : String) : Option Injection :=
  s.injections.find? fun i => i.command == command

def spent? (i : Injection) : Option Injection :=
  if i.times ≤ 1 then none else some { i with times := i.times - 1 }

def spend (s : Server) (i : Injection) : Server :=
  let rest := s.injections.filter fun other => other.command != i.command
  { s with injections := if i.times ≤ 1 then rest else { i with times := i.times - 1 } :: rest }

section

variable {s : Server} {command : String}

theorem command_of_pending {i : Injection} (pending : s.pending? command = some i) :
    i.command = command := by
  simpa using List.find?_some pending

theorem takeInjection_eq (s : Server) (command : String) :
    s.takeInjection command = (s.pending? command).map fun i => (i.failure, s.spend i) := by
  unfold takeInjection
  split <;> rename_i found
  · rw [pending?, found, Option.map_none]
  · have own := command_of_pending found
    rw [pending?, found, Option.map_some, spend, own]

theorem find?_filter_self (command : String) (injections : List Injection) :
    (injections.filter fun other => other.command != command).find?
      (fun i => i.command == command) = none := by
  rw [List.find?_filter, List.find?_eq_none]
  intro i _
  simp

theorem find?_filter_of_ne {other : String} (ne : other ≠ command) (injections : List Injection) :
    (injections.filter fun i => i.command != command).find? (fun i => i.command == other) =
      injections.find? fun i => i.command == other := by
  rw [List.find?_filter]
  congr 1
  funext i
  by_cases own : i.command = other
  · simp [own, ne]
  · simp [own]

theorem pending?_spend_self (i : Injection) : (s.spend i).pending? i.command = spent? i := by
  rw [pending?, spend, spent?]
  dsimp only
  split
  · exact find?_filter_self _ _
  · exact List.find?_cons_of_pos (beq_self_eq_true _)

theorem pending?_spend_of_ne {i : Injection} (ne : command ≠ i.command) :
    (s.spend i).pending? command = s.pending? command := by
  rw [pending?, spend]
  dsimp only
  split
  · exact find?_filter_of_ne ne _
  · rw [List.find?_cons_of_neg (by simpa using ne.symm)]
    exact find?_filter_of_ne ne _

theorem pending?_inject_self {times : Nat} (positive : 0 < times) (failure : Failure) :
    (s.inject command times failure).pending? command = some ⟨command, times, failure⟩ := by
  rw [inject, if_neg (Nat.pos_iff_ne_zero.mp positive)]
  exact List.find?_cons_of_pos (beq_self_eq_true _)

theorem pending?_inject_of_ne {other : String} (ne : other ≠ command) (times : Nat)
    (failure : Failure) : (s.inject command times failure).pending? other = s.pending? other := by
  rw [inject]
  split
  · rfl
  · rw [pending?, List.find?_cons_of_neg (by simpa using ne.symm)]
    exact find?_filter_of_ne ne _

end

/-! ## One command -/

/-- What the server makes of a command, and its answer to it. -/
inductive Responds (now : Int64) (s : Server) (r : Request) :
    Except Failure (List String) × Server → Prop where
  | unreachable (offline : s.offline = true) :
      Responds now s r (.error (.connection "simulated server offline"), s.logged r)
  | failed (online : s.offline = false) (i : Injection) (waits : s.pending? r.name = some i) :
      Responds now s r (.error i.failure, (s.logged r).spend i)
  | rejected (online : s.offline = false) (free : s.pending? r.name = none) (rejection : Rejection)
      (replies : s.reply now r = .error rejection) :
      Responds now s r (.error (rejection.line 0).toFailure, s.logged r)
  | accepted (online : s.offline = false) (free : s.pending? r.name = none) (rows : List String)
      (after : Server) (replies : s.reply now r = .ok (rows, after))
      (handles : (s.logged r).Handles now r after) : Responds now s r (.ok rows, after)

theorem responds_respond (now : Int64) (s : Server) (r : Request) :
    Responds now s r (s.respond now r) := by
  have pending (name : String) : (s.logged r).pending? name = s.pending? name := rfl
  rw [respond]
  dsimp only
  split
  · rename_i offline
    exact .unreachable offline
  · rename_i online
    have online : s.offline = false := Bool.not_eq_true _ ▸ online
    have taken := takeInjection_eq (s.logged r) r.name
    rw [logged] at taken
    rw [taken, ← logged, pending]
    cases waits : s.pending? r.name with
    | some i => exact .failed online i waits
    | none =>
      have leaves := handles_handle now (s.logged r) r
      rw [Option.map_none]
      dsimp only
      split <;> rename_i handled
      · exact .rejected online waits _ handled
      · rw [handled] at leaves
        cases leaves with
        | accepted handles => exact .accepted online waits _ _ handled handles

def accepts (s : Server) (now : Int64) (r : Request) : Bool := (s.respond now r).1.isOk

theorem accepts_iff {now : Int64} {s : Server} {r : Request} : s.accepts now r = true ↔
    s.offline = false ∧ s.pending? r.name = none ∧ (s.reply now r).isOk = true := by
  have responds := responds_respond now s r
  rw [accepts]
  generalize s.respond now r = response at responds
  cases responds with
  | unreachable offline => simp [offline, Except.isOk, Except.toBool]
  | failed _ _ waits => simp [waits, Except.isOk, Except.toBool]
  | rejected _ _ _ replies => simp [replies, Except.isOk, Except.toBool]
  | accepted online free _ _ replies =>
    simp [online, free, replies, Except.isOk, Except.toBool]

theorem refused_or_handled (now : Int64) (s : Server) (r : Request) :
    (s.accepts now r = false ∧ (s.respond now r).2.jobs = s.jobs) ∨
      (s.accepts now r = true ∧ (s.logged r).Handles now r (s.respond now r).2) := by
  have responds := responds_respond now s r
  rw [accepts]
  generalize s.respond now r = answer at responds
  cases responds with
  | unreachable | failed | rejected => exact .inl ⟨rfl, rfl⟩
  | accepted _ _ rows after _ handles => exact .inr ⟨rfl, handles⟩

end Server

end BackupConsole.Simulation
