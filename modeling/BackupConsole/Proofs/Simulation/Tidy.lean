import BackupConsole.Proofs.Simulation.Polled

/-!
# A tidy server

No command changes the texts of a job or the order of the jobs, and none adds or removes a job. So a
simulated server that can be reached, with no failure waiting, with jobs of different UUIDs and with
texts that are read as they were written, stays like this whatever it is asked. It tells its jobs and
its run state as they are.
-/

set_option autoImplicit false

namespace BackupConsole.Simulation

open Job Wire Polling Text

inductive Leaves {α : Type} (P : α → Prop) : Except Rejection (List String × α) → Prop where
  | accepted {rows : List String} {after : α} (holds : P after) : Leaves P (.ok (rows, after))
  | rejected (rejection : Rejection) : Leaves P (.error rejection)

theorem decoded_deliver {α : Type} {read : Fields → Except Fault α} {row : String} {m : Fields}
    {value : α} (parsed : Fields.parse (trimmed row) = .ok m) (reads : read m = .ok value) :
    Poll.decoded read (Server.deliver [row]) = .ok value := by
  have whole : Fields.empty.extend m = m := by
    rw [Fields.extend, Fields.empty, List.append_nil]
  have merged : (Server.deliver [row]).merged = .ok m := by
    rw [deliver_of_fields parsed]
    exact congrArg Except.ok whole
  rw [Poll.decoded, merged]
  dsimp only
  rw [reads]

theorem ofFields_stateFields (state : RunState) :
    RunState.ofFields (.ofPairs (stateFields state)) = .ok state := by
  cases state with
  | running | suspended => rfl
  | paused remaining =>
    generalize row : Fields.ofPairs (stateFields (.paused remaining)) = m
    have state : m.get? "state" = some "pause" := row ▸ rfl
    have time : m.parsed? Number.readUInt64 "time" = some remaining := by
      have found : m.get? "time" = some (toString remaining.toNat) := row ▸ rfl
      rw [parsed?_of_get? found (dark_toString _), toList_toString, Number.readUInt64_toDigits]
    have present : m.require ["state"] = .ok () := by
      simp [Fields.require, Fields.contains, state]
    have word : lower (m.string "state" "") = "pause" := by
      rw [string_of_get? state]
      decide
    rw [RunState.ofFields, present, word, Fields.ulong, time]
    rfl

/-! ## What commands leave alone -/

def SimJob.Retains (job other : SimJob) : Prop := texts other.snapshot = texts job.snapshot

structure Server.Retains (s after : Server) : Prop where
  offline : after.offline = s.offline
  injections : after.injections = s.injections
  alike : (after.jobs.map fun job => texts job.snapshot) = s.jobs.map fun job => texts job.snapshot

theorem SimJob.retains_advance (now : Int64) (job : SimJob) : job.Retains (job.advance now) := by
  unfold Retains advance
  split
  · dsimp only
    split <;> rfl
  · rfl

section

variable (job : SimJob)

theorem retains_triggerJob (schedule : String) :
    Leaves job.Retains (Server.triggerJob job schedule) := by
  unfold Server.triggerJob
  split
  · exact .rejected _
  · split
    · exact .rejected _
    · exact .accepted rfl

theorem retains_startJob (type : ArchiveType) (noStorage dryRun : Bool) :
    Leaves job.Retains (Server.startJob job type noStorage dryRun) := by
  unfold Server.startJob
  split
  · exact .rejected _
  · split
    · exact .rejected _
    · exact .accepted rfl

theorem retains_abortJob : Leaves job.Retains (Server.abortJob job) := by
  unfold Server.abortJob
  split
  · exact .accepted rfl
  · exact .rejected _

theorem retains_resetJob : Leaves job.Retains (Server.resetJob job) := by
  unfold Server.resetJob
  split
  · exact .rejected _
  · exact .accepted rfl

theorem retains_loadVolume (number : UInt32) :
    Leaves job.Retains (Server.loadVolume job number) := by
  unfold Server.loadVolume
  split
  · exact .rejected _
  · exact .accepted rfl

theorem retains_unloadVolume : job.Retains (Server.unloadVolume job) := by
  unfold Server.unloadVolume
  split <;> rfl

theorem retains_storePassword (password : String) :
    job.Retains (Server.storePassword job password) := by
  unfold Server.storePassword
  dsimp only
  split <;> rfl

end

namespace Server

section

variable {uuid : String} {job other : SimJob}

theorem map_setFirst {α : Type} {f : SimJob → α} (same : f other = f job) {jobs : List SimJob}
    (found : jobs.find? (fun job => job.snapshot.uuid == uuid) = some job) :
    (setFirst uuid other jobs).map f = jobs.map f := by
  induction jobs with
  | nil => rfl
  | cons first rest ih =>
    rw [setFirst]
    by_cases own : first.snapshot.uuid = uuid
    · rw [List.find?_cons_of_pos (by simpa using own)] at found
      obtain rfl := Option.some.inj found
      rw [if_pos own, List.map_cons, List.map_cons, same]
    · rw [List.find?_cons_of_neg (by simpa using own)] at found
      rw [if_neg own, List.map_cons, List.map_cons, ih found]

theorem setJob_self {s : Server} (found : s.findJob? uuid = some job) : s.setJob uuid job = s := by
  have jobs := map_setFirst (f := id) rfl found
  rw [List.map_id, List.map_id] at jobs
  rw [setJob, jobs]

theorem findJob?_setJob_of_ne {s : Server} (own : job.snapshot.uuid = uuid) {another : String}
    (ne : another ≠ uuid) : (s.setJob uuid job).findJob? another = s.findJob? another := by
  obtain ⟨jobs, _, _, _, _⟩ := s
  change (setFirst uuid job jobs).find? _ = jobs.find? _
  induction jobs with
  | nil => rfl
  | cons first rest ih =>
    rw [setFirst]
    by_cases same : first.snapshot.uuid = uuid
    · rw [if_pos same, List.find?_cons_of_neg (by simpa [own] using ne.symm),
        List.find?_cons_of_neg (by simpa [same] using ne.symm)]
    · rw [if_neg same, List.find?_cons, List.find?_cons, ih]

end

variable {s : Server}

namespace Retains

theorem refl (s : Server) : s.Retains s := ⟨rfl, rfl, rfl⟩

theorem trans {after last : Server} (first : s.Retains after) (second : after.Retains last) :
    s.Retains last :=
  ⟨second.offline.trans first.offline, second.injections.trans first.injections,
    second.alike.trans first.alike⟩

theorem uuids {after : Server} (retains : s.Retains after) :
    (after.jobs.map fun job => job.snapshot.uuid) = s.jobs.map fun job => job.snapshot.uuid := by
  have same := congrArg (List.map fun texts => texts.headD "") retains.alike
  rw [List.map_map, List.map_map] at same
  exact same

theorem onJob {r : Request} {act : SimJob → Except Rejection (List String × SimJob)}
    (acts : ∀ job, Leaves job.Retains (act job)) : Leaves s.Retains (s.onJob r act) := by
  unfold Server.onJob
  dsimp only
  split
  · exact .rejected _
  · rename_i job found
    have leaves := acts job
    split
    · exact .rejected _
    · rename_i rows other acted
      rw [acted] at leaves
      cases leaves with
      | accepted same =>
        have alike := map_setFirst (f := fun job => texts job.snapshot) same found
        exact .accepted ⟨rfl, rfl, alike⟩

theorem status (now : Int64) : s.Retains (s.status now) := by
  unfold Server.status
  dsimp only
  split
  · refine ⟨rfl, rfl, ?_⟩
    rw [List.map_map]
    exact List.map_congr_left fun job _ => job.retains_advance now
  · exact ⟨rfl, rfl, rfl⟩

theorem handle (now : Int64) (r : Request) : Leaves s.Retains (s.handle now r) := by
  unfold Server.handle
  split
  · exact .accepted (refl s)
  · exact .accepted (status now)
  · exact onJob fun job => .accepted rfl
  · refine onJob fun job => .accepted ?_
    split
    · exact job.retains_advance now
    · rfl
  · exact onJob fun job => .accepted rfl
  · exact onJob fun job => retains_triggerJob job _
  · dsimp only
    split
    · exact .rejected _
    · exact onJob fun job => retains_startJob job _ _ _
  · exact onJob retains_abortJob
  · exact onJob retains_resetJob
  · split
    · exact .rejected _
    · split
      · exact .rejected _
      · exact .accepted ⟨rfl, rfl, rfl⟩
  · exact .accepted ⟨rfl, rfl, rfl⟩
  · exact .accepted ⟨rfl, rfl, rfl⟩
  · split
    · exact .rejected _
    · exact onJob fun job => retains_loadVolume job _
  · exact onJob fun job => .accepted (retains_unloadVolume job)
  · split
    · exact .rejected _
    · split
      · exact .rejected _
      · exact onJob fun job => .accepted (retains_storePassword job _)
  · exact .rejected _

end Retains

/-! ## Tidy servers -/

/-- The server can be reached, no failure waits, its jobs have different UUIDs, and all that is told
of them is read as it was written. -/
structure Tidy (s : Server) : Prop where
  online : s.offline = false
  uninjected : s.injections = []
  distinct : (s.jobs.map fun job => job.snapshot.uuid).Nodup
  told : ∀ job ∈ s.jobs, ∀ text ∈ texts job.snapshot, Survives text

theorem Tidy.retained (tidy : s.Tidy) {after : Server} (retains : s.Retains after) : after.Tidy := by
  refine ⟨retains.offline.trans tidy.online, retains.injections.trans tidy.uninjected, ?_, ?_⟩
  · rw [retains.uuids]
    exact tidy.distinct
  · intro job mem
    have listed := List.mem_map_of_mem (f := fun job => texts job.snapshot) mem
    rw [retains.alike] at listed
    obtain ⟨other, before, same⟩ := List.mem_map.mp listed
    rw [← same]
    exact tidy.told other before

theorem Tidy.findJob? (tidy : s.Tidy) {job : SimJob} (mem : job ∈ s.jobs) :
    s.findJob? job.snapshot.uuid = some job := by
  obtain ⟨_, _, distinct, _⟩ := tidy
  rw [Server.findJob?]
  generalize s.jobs = jobs at mem distinct
  induction jobs with
  | nil => exact absurd mem List.not_mem_nil
  | cons first rest ih =>
    obtain ⟨fresh, distinct⟩ := List.nodup_cons.mp distinct
    obtain rfl | mem := List.mem_cons.mp mem
    · exact List.find?_cons_of_pos (beq_self_eq_true _)
    · rw [List.find?_cons_of_neg]
      · exact ih mem distinct
      · intro same
        exact fresh (List.mem_map.mpr ⟨job, mem, (beq_iff_eq.mp same).symm⟩)

def logged (s : Server) (r : Request) : Server := { s with commands := s.commands ++ [r.text] }

theorem findJob?_logged (s : Server) (r : Request) : (s.logged r).findJob? = s.findJob? := rfl

theorem findJob?_status (now : Int64) (s : Server) (uuid : String) :
    (s.status now).findJob? uuid = s.findJob? uuid ∨
      (s.status now).findJob? uuid = (s.findJob? uuid).map (SimJob.advance now) := by
  rw [Server.status]
  split
  · exact .inr (findJob?_map (SimJob.uuid_advance now) s uuid)
  · exact .inl rfl

section

variable (tidy : s.Tidy) (now : Int64)

include tidy

theorem Tidy.retains_answer (r : Request) : s.Retains (s.answer now r).2 := by
  have logs : s.Retains (s.logged r) := ⟨rfl, rfl, rfl⟩
  have leaves : Leaves (s.logged r).Retains (s.reply now r) := Retains.handle now r
  rw [answer_eq tidy.online tidy.uninjected, Server.after]
  dsimp only
  split
  · exact logs
  · rename_i rows after replied
    rw [replied] at leaves
    cases leaves with
    | accepted retains => exact logs.trans retains

theorem Tidy.answer (r : Request) : (s.answer now r).2.Tidy :=
  tidy.retained (tidy.retains_answer now r)

/-! ### What a tidy server tells -/

theorem Tidy.answer_list :
    s.answer now listCall.request =
      ({ rows := s.jobs.map fun job => .ofPairs (jobFields job.snapshot) },
        s.logged listCall.request) := by
  have reply : s.reply now listCall.request =
      .ok (s.jobs.map fun job => jobRow job.snapshot, s.logged listCall.request) := rfl
  have told := tidy.told
  rw [answer_of_reply tidy.online tidy.uninjected reply]
  congr 1
  generalize s.jobs = jobs at told
  induction jobs with
  | nil => rfl
  | cons job jobs ih =>
    obtain ⟨first, told⟩ := List.forall_mem_cons.mp told
    rw [List.map_cons, deliver_of_fields (parse_jobRow first), ih told]
    rfl

theorem Tidy.relisted_list (roster : Roster) :
    relisted (s.answer now listCall.request).1 roster =
      roster.replace (s.jobs.map SimJob.snapshot) := by
  have read (job : SimJob) :
      (Snapshot.ofFields (.ofPairs (jobFields job.snapshot))).toOption = some job.snapshot := by
    rw [ofFields_jobFields, Except.toOption]
  have jobs : Poll.jobsOf (s.jobs.map fun job => .ofPairs (jobFields job.snapshot)) =
      s.jobs.map SimJob.snapshot := by
    rw [Poll.jobsOf, List.filterMap_map, ← List.filterMap_eq_map]
    exact List.filterMap_congr fun job _ => read job
  rw [tidy.answer_list, relisted, jobs]

theorem Tidy.answer_state :
    Poll.decoded RunState.ofFields (s.answer now stateCall.request).1 =
        .ok (s.answer now stateCall.request).2.runState ∧
      (s.answer now stateCall.request).2 = (s.logged stateCall.request).status now := by
  have reply : s.reply now stateCall.request =
      .ok ([runStateRow ((s.logged stateCall.request).status now).runState],
        (s.logged stateCall.request).status now) := rfl
  generalize (s.logged stateCall.request).status now = after at reply ⊢
  have told := decoded_deliver (parse_runStateRow after.runState) (ofFields_stateFields _)
  rw [answer_of_reply tidy.online tidy.uninjected reply]
  dsimp only
  exact ⟨told, rfl⟩

theorem Tidy.answer_status {uuid : String} {job : SimJob} (found : s.findJob? uuid = some job) :
    Poll.decoded Snapshot.ofFields (s.answer now (statusCall uuid).request).1 = .ok job.snapshot ∧
      (s.answer now (statusCall uuid).request).2 = s.logged (statusCall uuid).request := by
  have survive := tidy.told job (List.mem_of_find?_eq_some found)
  have told := decoded_deliver (parse_jobRow survive) (ofFields_jobFields job.snapshot)
  have here : (s.logged (statusCall uuid).request).findJob? uuid = some job := found
  have reply := (reply_status now s uuid).trans (onJob_of_found here rfl)
  rw [answer_of_reply tidy.online tidy.uninjected reply]
  dsimp only
  exact ⟨told, setJob_self here⟩

theorem Tidy.answer_of_unknown {uuid : String} (unknown : s.findJob? uuid = none) {r : Request}
    (asked : jobUUID r = uuid) {act : SimJob → Except Rejection (List String × SimJob)}
    (acts : s.reply now r = (s.logged r).onJob r act) :
    s.answer now r = (.failed ((Rejection.mk 10 uuid).line 0).toFailure, s.logged r) := by
  have missing : (s.logged r).findJob? (jobUUID r) = none := asked ▸ unknown
  have reply : s.reply now r = .error ⟨10, uuid⟩ := by
    rw [acts, onJob, missing, asked]
  rw [answer_eq tidy.online tidy.uninjected, Server.after, reply]
  rfl

theorem Tidy.answer_detail (uuid : String) :
    let after := (s.answer now (detailCall uuid).request).2
    after.runState = s.runState ∧ (∀ other, other ≠ uuid → after.findJob? other = s.findJob? other) ∧
      (after.findJob? uuid = s.findJob? uuid ∨
        after.findJob? uuid = (s.findJob? uuid).map (SimJob.advance now)) := by
  intro after
  cases found : s.findJob? uuid with
  | none =>
    have unknown := tidy.answer_of_unknown now found rfl (reply_detail now s uuid)
    have same : after = s.logged (detailCall uuid).request := congrArg Prod.snd unknown
    rw [same, findJob?_logged, found]
    exact ⟨rfl, fun _ _ => rfl, .inl rfl⟩
  | some job =>
    have here : (s.logged (detailCall uuid).request).findJob? uuid = some job := found
    have own : job.snapshot.uuid = uuid := by simpa using List.find?_some found
    have reply := (reply_detail now s uuid).trans (onJob_of_found here rfl)
    have answered := congrArg Prod.snd (answer_of_reply tidy.online tidy.uninjected reply)
    obtain ⟨other, same, moved⟩ : ∃ other,
        after = (s.logged (detailCall uuid).request).setJob uuid other ∧
          (other = job ∨ other = job.advance now) := by
      refine ⟨_, answered, ?_⟩
      split
      · exact .inr rfl
      · exact .inl rfl
    have own' : other.snapshot.uuid = uuid := by
      obtain rfl | rfl := moved
      · exact own
      · exact (job.uuid_advance now).trans own
    rw [same, findJob?_setJob here own']
    refine ⟨rfl, fun another ne => findJob?_setJob_of_ne own' ne, ?_⟩
    exact moved.imp (congrArg some) (congrArg some)

end

end Server

end BackupConsole.Simulation
