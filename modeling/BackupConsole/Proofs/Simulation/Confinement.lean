import BackupConsole.Proofs.Simulation.Events

set_option autoImplicit false

namespace BackupConsole.Simulation

open Job Wire

namespace Server

/-! ## Effects -/

/-- All is as before but for the log of commands and the failure that waits for this command. -/
structure Spared (s : Server) (r : Request) (after : Server) : Prop where
  jobs : after.jobs = s.jobs
  runState : after.runState = s.runState
  offline : after.offline = s.offline
  commands : after.commands = s.commands ++ [r.text]
  waiting : ∀ name, name ≠ r.name → after.pending? name = s.pending? name

/-- All is as before but for the log of commands and the first job with the UUID of the command. -/
def Touches (s : Server) (r : Request) (after : Server) : Prop :=
  ∃ before job rest other, s.jobs = before ++ job :: rest ∧ job.snapshot.uuid = jobUUID r ∧
    (∀ earlier ∈ before, earlier.snapshot.uuid ≠ jobUUID r) ∧
    after = { s.logged r with jobs := before ++ other :: rest }

def outcome : Reply → Except Failure (List String)
  | .ok (rows, _) => .ok rows
  | .error rejection => .error (rejection.line 0).toFailure

section

variable {now : Int64} {s : Server} {r : Request}

theorem spared_of_error {failure : Failure} (failed : (s.respond now r).1 = .error failure) :
    s.Spared r (s.respond now r).2 := by
  have responds := responds_respond now s r
  generalize s.respond now r = answer at failed responds
  cases responds with
  | unreachable | rejected => exact ⟨rfl, rfl, rfl, rfl, fun _ _ => rfl⟩
  | failed _ i waits =>
    refine ⟨rfl, rfl, rfl, rfl, fun name ne => ?_⟩
    have ne : name ≠ i.command := command_of_pending waits ▸ ne
    exact pending?_spend_of_ne ne
  | accepted => cases failed

theorem handles_of_ok {rows : List String} (accepted : (s.respond now r).1 = .ok rows) :
    (s.logged r).Handles now r (s.respond now r).2 := by
  obtain ⟨refused, _⟩ | ⟨_, handles⟩ := refused_or_handled now s r
  · rw [accepts, accepted] at refused
    cases refused
  · exact handles

theorem touches_of_handles (known : r.name ∈ jobCommands) {after : Server}
    (handles : (s.logged r).Handles now r after) : s.Touches r after := by
  cases handles with
  | listed name | stated name => exact absurd (name ▸ known) (by decide)
  | switched name => exact (not_switches_of_known known name).elim
  | ordered _ i place job other here =>
    have place : s.place? (jobUUID r) = some i := place
    have here : s.jobs[i]? = some job := here
    obtain ⟨inside, own, first⟩ := List.findIdx?_eq_some_iff_getElem.mp place
    obtain ⟨_, rfl⟩ := List.getElem?_eq_some_iff.mp here
    refine ⟨s.jobs.take i, s.jobs[i], s.jobs.drop (i + 1), other, ?_, by simpa using own, ?_, ?_⟩
    · rw [← List.drop_eq_getElem_cons, List.take_append_drop]
    · intro earlier mem
      obtain ⟨j, before, rfl⟩ := List.mem_take_iff_getElem.mp mem
      simpa using first j (Nat.lt_of_lt_of_le before (Nat.min_le_left _ _))
    · have set : s.jobs.set i other = s.jobs.take i ++ other :: s.jobs.drop (i + 1) := by
        rw [List.set_eq_take_append_cons_drop, if_pos inside]
      rw [← set]
      rfl

theorem logged_of_reading (name : r.name ∈ ["JOB_LIST", "JOB_STATUS", "SCHEDULE_LIST"])
    {after : Server} (handles : (s.logged r).Handles now r after) : after = s.logged r := by
  cases handles with
  | listed => rfl
  | stated same => simp [same] at name
  | switched others =>
    exact absurd others
      ((by decide : ∀ name ∈ ["JOB_LIST", "JOB_STATUS", "SCHEDULE_LIST"], name ∉ _) _ name)
  | ordered _ i place job other here obeys =>
    cases obeys with
    | told =>
      obtain ⟨inside, rfl⟩ := List.getElem?_eq_some_iff.mp here
      rw [List.set_getElem_self]
    | watched same | started same | triggered same | aborted same | reset same | loaded same
    | unloaded same | unlocked same => simp [same] at name

theorem runState_of_switch (name : r.name ∈ ["PAUSE", "SUSPEND", "CONTINUE"]) {after : Server}
    (handles : (s.logged r).Handles now r after) :
    ∃ runState, after = { s.logged r with runState } := by
  cases handles with
  | listed same | stated same => exact absurd (same ▸ name) (by decide)
  | switched _ runState => exact ⟨runState, rfl⟩
  | ordered known => exact (not_switches_of_known known name).elim

end

/-! ## Injected failures -/

def receives (command : String) (moment : Server × Event) : Bool :=
  match moment.2 with
  | .command _ r => !moment.1.offline && r.name == command
  | _ => false

def Event.Replaces (command : String) : Event → Prop
  | .inject name times _ => name = command ∧ 0 < times
  | _ => False

section

variable {s : Server} {command : String}

theorem pending?_changeJob (uuid : String) (f : SimJob → SimJob) :
    (s.changeJob uuid f).pending? command = s.pending? command := by
  unfold changeJob
  split <;> rfl

theorem pending?_of_handles {now : Int64} {r : Request} {after : Server}
    (handles : (s.logged r).Handles now r after) :
    after.pending? command = s.pending? command := by
  cases handles with
  | listed | switched | ordered => rfl
  | stated =>
    rw [status]
    split <;> rfl

theorem pending?_undergo {e : Event} (older : ¬ e.Replaces command) :
    (s.undergo e).pending? command =
      if receives command (s, e) then (s.pending? command).bind spent? else s.pending? command := by
  cases e with
  | command now r =>
    have responds := responds_respond now s r
    rw [undergo, receives]
    dsimp only
    generalize s.respond now r = answer at responds
    cases responds with
    | unreachable offline =>
      rw [offline]
      rfl
    | failed online i waits =>
      have own := command_of_pending waits
      rw [online]
      by_cases same : r.name = command
      · subst same
        rw [waits, if_pos (by simp), Option.bind_some, ← own]
        exact pending?_spend_self i
      · have ne : command ≠ i.command := fun eq => same (own.symm.trans eq.symm)
        rw [if_neg (by simp [same])]
        exact pending?_spend_of_ne ne
    | rejected online free =>
      rw [online]
      split <;> rename_i named
      · obtain rfl : r.name = command := by simpa using named
        rw [free]
        exact free
      · rfl
    | accepted online free rows after _ handles =>
      have same : after.pending? command = s.pending? command := pending?_of_handles handles
      rw [online]
      split <;> rename_i named
      · obtain rfl : r.name = command := by simpa using named
        rw [same, free]
        rfl
      · exact same
  | inject name times failure =>
    rw [undergo]
    by_cases same : name = command
    · have none : times = 0 := Nat.eq_zero_of_not_pos fun positive => older ⟨same, positive⟩
      rw [none, Server.inject, if_pos rfl]
      rfl
    · exact pending?_inject_of_ne (Ne.symm same) times failure
  | change | override | schedule => exact pending?_changeJob _ _
  | add | remove | switch | reach | forget => rfl

theorem pending?_run {failure : Failure} {left : Nat} {events : List Event}
    (waits : s.pending? command = if 0 < left then some ⟨command, left, failure⟩ else none)
    (newest : ∀ e ∈ events, ¬ e.Replaces command) :
    (s.run events).pending? command =
      if (s.moments events).countP (receives command) < left then
        some ⟨command, left - (s.moments events).countP (receives command), failure⟩
      else none := by
  induction events generalizing s left with
  | nil => exact waits
  | cons e events ih =>
    obtain ⟨older, newest⟩ := List.forall_mem_cons.mp newest
    have step := pending?_undergo (s := s) older
    rw [moments, List.countP_cons, run, List.foldl_cons, ← run]
    cases received : receives command (s, e) with
    | false =>
      rw [received] at step
      exact ih (step.trans waits) newest
    | true =>
      have spends : (s.undergo e).pending? command =
          if 0 < left - 1 then some ⟨command, left - 1, failure⟩ else none := by
        rw [step, received, waits, if_pos rfl]
        by_cases one : left ≤ 1
        · rw [if_neg (by omega : ¬ 0 < left - 1)]
          split
          · exact if_pos one
          · rfl
        · rw [if_pos (by omega), if_pos (by omega), Option.bind_some, spent?, if_neg one]
      rw [ih spends newest, if_pos rfl]
      generalize (moments (s.undergo e) events).countP (receives command) = count
      by_cases more : count + 1 < left
      · rw [if_pos more, if_pos (by omega), Nat.sub_sub, Nat.add_comm 1]
      · rw [if_neg more, if_neg (by omega)]

end

/-! ## The law of effects -/

/-- What a command does to the server, told from its answer, and which commands an injected failure
answers. -/
theorem respond_confined (s : Server) :
    (∀ now r,
      (∀ failure, (s.respond now r).1 = .error failure → s.Spared r (s.respond now r).2) ∧
        ∀ rows, (s.respond now r).1 = .ok rows →
          (r.name ∈ ["JOB_LIST", "JOB_STATUS", "SCHEDULE_LIST"] →
            (s.respond now r).2 = s.logged r) ∧
          (r.name ∈ ["PAUSE", "SUSPEND", "CONTINUE"] →
            ∃ runState, (s.respond now r).2 = { s.logged r with runState }) ∧
          (r.name ∈ jobCommands → s.Touches r (s.respond now r).2)) ∧
      ∀ command failure, s.inject command 0 failure = s ∧
        ∀ times, 0 < times → ∀ events, (∀ e ∈ events, ¬ e.Replaces command) →
          let injected := s.inject command times failure
          let before := injected.run events
          before.offline = false → ∀ now r, r.name = command →
            (before.respond now r).1 =
              if (injected.moments events).countP (receives command) < times then .error failure
              else outcome (before.reply now r) := by
  refine ⟨fun now r => ⟨fun failure failed => spared_of_error failed, ?_⟩, ?_⟩
  · intro rows accepted
    have handles := handles_of_ok accepted
    exact ⟨fun name => logged_of_reading name handles, fun name => runState_of_switch name handles,
      fun known => touches_of_handles known handles⟩
  · refine fun command failure => ⟨if_pos rfl, ?_⟩
    intro times positive events newest injected before online now r named
    have waits : injected.pending? command =
        if 0 < times then some ⟨command, times, failure⟩ else none := by
      rw [pending?_inject_self positive, if_pos positive]
    have left := pending?_run waits newest
    have responds := responds_respond now before r
    generalize before.respond now r = answer at responds
    subst named
    cases responds with
    | unreachable offline => exact absurd (online.symm.trans offline) Bool.false_ne_true
    | failed _ i found =>
      rw [found] at left
      split at left <;> rename_i fewer
      · rw [if_pos fewer, Option.some.inj left]
      · cases left
    | rejected _ free rejection replies | accepted _ free rows after replies _ =>
      rw [free] at left
      split at left <;> rename_i fewer
      · cases left
      · rw [if_neg fewer, replies]
        rfl

/-- A command that has not reached the server does not use up the failure. -/
theorem failure_kept_offline :
    let failure := Failure.connection "reset by peer"
    let asked : Request := { name := "STATUS" }
    let s := ({ jobs := [SimJob.new "a" "alpha" .running] } : Server).inject "STATUS" 2 failure
    let before := s.run [.command 0 asked, .reach true, .command 0 asked, .reach false]
    (before.respond 0 asked).1 = .error failure := by
  intro failure asked s before
  have law := ((respond_confined { jobs := [SimJob.new "a" "alpha" .running] }).2 "STATUS" failure).2
    2 (by decide) [.command 0 asked, .reach true, .command 0 asked, .reach false]
    (by simp [Event.Replaces]) rfl 0 asked rfl
  exact law.trans (if_pos (by decide))

end Server

end BackupConsole.Simulation
