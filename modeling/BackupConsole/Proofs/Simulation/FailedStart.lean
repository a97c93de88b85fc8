import BackupConsole.Proofs.Simulation.Events
import BackupConsole.Proofs.Simulation.Passwords

set_option autoImplicit false

namespace BackupConsole.Simulation

open Job Wire Polling

def SimJob.ButPassword (job other : SimJob) : Prop := { other with password := job.password } = job

theorem SimJob.ButPassword.refl (job : SimJob) : job.ButPassword job := rfl

theorem butPassword_storePassword_iff (job : SimJob) (password : String) :
    job.ButPassword (Server.storePassword job password) ↔
      job.snapshot.state ≠ .requestCryptPassword := by
  rw [Server.storePassword]
  dsimp only
  split <;> rename_i asks
  · refine iff_of_false (fun same => ?_) (not_not_intro asks)
    have running : State.running = job.snapshot.state :=
      congrArg (fun job : SimJob => job.snapshot.state) same
    exact absurd (running.trans asks) (by decide)
  · exact iff_of_true rfl asks

def startCommands : List String := ["CRYPT_PASSWORD", "JOB_START"]

namespace Server

/-! ## One command -/

section

variable {now : Int64} {s : Server} {r : Request} {i : Nat} {job : SimJob}

def Rowless {α : Type} (reply : Except Rejection (List String × α)) : Prop :=
  ∀ rows after, reply = .ok (rows, after) → rows = []

theorem rowless_onJob {act : SimJob → Except Rejection (List String × SimJob)}
    (acts : ∀ job, Rowless (act job)) : Rowless (s.onJob r act) := by
  intro rows after replies
  unfold onJob at replies
  dsimp only at replies
  split at replies
  · cases replies
  · split at replies
    · cases replies
    · rename_i acted
      obtain ⟨rfl, _⟩ := Prod.mk.inj (Except.ok.inj replies)
      exact acts _ _ _ acted

theorem rowless_startJob (job : SimJob) (type : ArchiveType) (noStorage dryRun : Bool) :
    Rowless (startJob job type noStorage dryRun) := by
  intro rows after starts
  unfold startJob at starts
  split at starts
  · cases starts
  · split at starts
    · cases starts
    · exact (congrArg Prod.fst (Except.ok.inj starts)).symm

theorem rowless_reply (now : Int64) (s : Server) (named : r.name ∈ startCommands) :
    Rowless (s.reply now r) := by
  have rejected {rejection : Rejection} : Rowless (.error rejection : Reply) := nofun
  rw [reply, handle]
  obtain named | named : r.name = "CRYPT_PASSWORD" ∨ r.name = "JOB_START" := by
    simpa [startCommands] using named
  · simp only [named]
    split
    · exact rejected
    · split
      · exact rejected
      · exact rowless_onJob fun job rows other stores =>
          (congrArg Prod.fst (Except.ok.inj stores)).symm
  · simp only [named]
    split
    · exact rejected
    · exact rowless_onJob fun job => rowless_startJob job _ _ _

theorem outcome_answer_iff (named : r.name ∈ startCommands) :
    (s.answer now r).1.outcome = .ok () ↔ s.accepts now r = true := by
  have responds := responds_respond now s r
  rw [answer, accepts]
  generalize s.respond now r = response at responds
  cases responds with
  | unreachable | failed | rejected => simp [Answer.failed, Except.isOk, Except.toBool]
  | accepted _ _ rows after replies =>
    obtain rfl := rowless_reply now s named rows after replies
    exact ⟨fun _ => rfl, fun _ => rfl⟩

theorem jobs_answer_of_failed (named : r.name ∈ startCommands) {cause : Failure}
    (fails : (s.answer now r).1.outcome = .error cause) : (s.answer now r).2.jobs = s.jobs := by
  rw [answer_snd]
  obtain ⟨_, jobs⟩ | ⟨taken, _⟩ := refused_or_handled now s r
  · exact jobs
  · exact absurd (((outcome_answer_iff named).mpr taken).symm.trans fails) nofun

theorem texts_answer (now : Int64) (s : Server) (r : Request) :
    (s.answer now r).2.jobs.map (fun job => texts job.snapshot) =
      s.jobs.map fun job => texts job.snapshot := by
  rw [answer_snd]
  have responds := responds_respond now s r
  generalize s.respond now r = response at responds
  cases responds with
  | unreachable | failed | rejected => rfl
  | accepted _ _ rows after replies =>
    have leaves : Leaves (s.logged r).Retains (s.reply now r) := Retains.handle now r
    rw [replies] at leaves
    cases leaves with
    | accepted retains => exact retains.alike

theorem place?_answer (now : Int64) (s : Server) (r : Request) (uuid : String) :
    (s.answer now r).2.place? uuid = s.place? uuid := by
  have place (s : Server) : s.place? uuid =
      (s.jobs.map fun job => texts job.snapshot).findIdx? fun texts => texts.headD "" == uuid := by
    rw [List.findIdx?_map]
    rfl
  rw [place, place, texts_answer]

theorem getElem?_answer_password (here : s.jobs[i]? = some job) (now : Int64) (known : Snapshot)
    (password : String) :
    let r := (passwordErrand known password).request
    (s.answer now r).2.jobs[i]? =
      some (if s.orders "CRYPT_PASSWORD" i (.command now r) then storePassword job password
        else job) := by
  intro r
  have elsewhere : r.name ≠ "STATUS" := (by decide : "CRYPT_PASSWORD" ≠ "STATUS")
  obtain ⟨other, there, moves⟩ :=
    movesBy_undergo (K := Eq) (fun _ => rfl) (e := .command now r) trivial here
  rw [answer_snd]
  refine there.trans (congrArg some ?_)
  cases moves with
  | kept same unordered => rw [unordered _ (by decide), if_neg Bool.false_ne_true, same]
  | ticked ticks => exact absurd (ticks.symm.trans (ticks_of_ne elsewhere)) nofun
  | ordered _ orders obeys =>
    have named : (r.name == "CRYPT_PASSWORD") = true := rfl
    rw [orders, if_pos named]
    obtain ⟨stored, given, rfl⟩ := obeys.of_password rfl
    rw [password?_passwordErrand] at given
    split at given
    · cases given
    · rw [Option.some.inj given]

theorem orders_password_iff (here : s.jobs[i]? = some job) (known : Snapshot) (password : String) :
    s.orders "CRYPT_PASSWORD" i (.command now (passwordErrand known password).request) = true ↔
      (s.offline = false ∧ s.pending? "CRYPT_PASSWORD" = none ∧ password ≠ "") ∧
        s.place? known.uuid = some i := by
  have named : ((passwordErrand known password).request.name == "CRYPT_PASSWORD") = true := rfl
  have own : jobUUID (passwordErrand known password).request = known.uuid := rfl
  have command : (passwordErrand known password).request.name = "CRYPT_PASSWORD" := rfl
  rw [orders, named, own, Bool.true_and, Bool.and_eq_true, beq_iff_eq]
  refine and_congr_left fun place => ?_
  have found : (s.logged (passwordErrand known password).request).findJob?
      (jobUUID (passwordErrand known password).request) = some job := findJob?_of_place place here
  rw [accepts_iff, command, reply_password]
  by_cases empty : password = ""
  · simp [empty, Except.isOk, Except.toBool]
  · rw [if_neg empty, onJob_of_found found rfl]
    simp [empty, Except.isOk, Except.toBool]

theorem not_accepts_start {known : Snapshot} (place : s.place? known.uuid = some i)
    (here : s.jobs[i]? = some job) (active : job.isActive = true) (type : ArchiveType)
    (noStorage dryRun : Bool) :
    s.accepts now (startErrand known type noStorage dryRun).request = false := by
  have own : jobUUID (startErrand known type noStorage dryRun).request = known.uuid := rfl
  have named : (startErrand known type noStorage dryRun).request.name = "JOB_START" := rfl
  obtain ⟨refused, _⟩ | ⟨taken, handles⟩ :=
    refused_or_handled now s (startErrand known type noStorage dryRun).request
  · exact refused
  · have orders : s.orders "JOB_START" i
        (.command now (startErrand known type noStorage dryRun).request) = true := by
      simp [Server.orders, own, named, taken, place]
    obtain ⟨_, found, other, there, _, obeys⟩ := obeys_of_orders (by decide) orders
    obtain rfl := Option.some.inj (here.symm.trans there)
    exact absurd ((obeys.of_start rfl).1.symm.trans active) Bool.false_ne_true

end

/-! ## The order -/

/-- The password reaches the job at this place, which is the selected one and waits for it. -/
structure Resumes (s : Server) (b : Board) (given : Option String) (i : Nat) (job : SimJob) :
    Prop where
  online : s.offline = false
  free : s.pending? "CRYPT_PASSWORD" = none
  filled : ∃ password, given = some password ∧ password ≠ ""
  selected : ∃ known, b.selectedJob? = some known ∧ s.place? known.uuid = some i
  asks : job.snapshot.state = .requestCryptPassword

/-- What a failed start leaves of the job: nothing but the password has changed, unless the job goes
on with the password. -/
structure LeftBy (s : Server) (b : Board) (given : Option String) (i : Nat) (job other : SimJob) :
    Prop where
  same : job.ButPassword other ↔ ¬s.Resumes b given i job
  resumed : s.Resumes b given i job → other = { job.setState .running with password := given }

section

variable {clock : Nat → Int64} {s : Server} {i : Nat} {job : SimJob} {b : Board} {known : Snapshot}

theorem resumes_iff (here : s.jobs[i]? = some job) (selected : b.selectedJob? = some known)
    (now : Int64) (password : String) :
    s.Resumes b (some password) i job ↔
      s.orders "CRYPT_PASSWORD" i (.command now (passwordErrand known password).request) = true ∧
        job.snapshot.state = .requestCryptPassword := by
  rw [orders_password_iff here]
  constructor
  · rintro ⟨online, free, ⟨_, ⟨⟩, filled⟩, ⟨_, same, place⟩, asks⟩
    obtain rfl := Option.some.inj (selected.symm.trans same)
    exact ⟨⟨⟨online, free, filled⟩, place⟩, asks⟩
  · rintro ⟨⟨⟨online, free, filled⟩, place⟩, asks⟩
    exact ⟨online, free, ⟨_, rfl, filled⟩, ⟨_, selected, place⟩, asks⟩

theorem LeftBy.refl {given : Option String} (stays : ¬s.Resumes b given i job) :
    s.LeftBy b given i job job :=
  ⟨iff_of_true (.refl job) stays, fun resumes => absurd resumes stays⟩

theorem leftBy_answer_password (here : s.jobs[i]? = some job)
    (selected : b.selectedJob? = some known) (now : Int64) (password : String) :
    ∃ other, (s.answer now (passwordErrand known password).request).2.jobs[i]? = some other ∧
      s.LeftBy b (some password) i job other := by
  have resumes := resumes_iff here selected now password
  have there := getElem?_answer_password here now known password
  dsimp only at there
  split at there <;> rename_i orders
  · rw [orders, and_iff_right rfl] at resumes
    refine ⟨_, there, ?_, fun goesOn => ?_⟩
    · rw [butPassword_storePassword_iff, resumes]
    · have asks := resumes.mp goesOn
      rw [storePassword]
      dsimp only
      rw [if_pos asks]
      rfl
  · exact ⟨job, there, .refl fun goesOn => orders (resumes.mp goesOn).1⟩

theorem not_accepts_start_of_resumes (here : s.jobs[i]? = some job)
    (selected : b.selectedJob? = some known) {password : String}
    (resumes : s.Resumes b (some password) i job) (now later : Int64) (type : ArchiveType)
    (noStorage dryRun : Bool) :
    (s.answer now (passwordErrand known password).request).2.accepts later
      (startErrand known type noStorage dryRun).request = false := by
  obtain ⟨other, there, left⟩ := leftBy_answer_password here selected now password
  obtain ⟨_, same, place⟩ := resumes.selected
  obtain rfl := Option.some.inj (selected.symm.trans same)
  rw [← place?_answer now s (passwordErrand known password).request] at place
  exact not_accepts_start place there (left.resumed resumes ▸ rfl) type noStorage dryRun

theorem not_resumes_of_none : ¬s.Resumes b none i job := fun ⟨_, _, ⟨_, given, _⟩, _, _⟩ => nomatch given

def startErrands (known : Snapshot) (type : ArchiveType) (noStorage dryRun : Bool)
    (given : Option String) : List Errand :=
  (given.map (passwordErrand known)).toList ++ [startErrand known type noStorage dryRun]

theorem plan_starting (b : Board) (type : ArchiveType) (noStorage dryRun : Bool)
    (given : Option String) :
    (∃ refusal, (Order.starting type noStorage dryRun given).plan b = .error refusal ∧
      ∀ (s : Server) (i : Nat) (job : SimJob), ¬s.Resumes b given i job) ∨
    ∃ known, b.selectedJob? = some known ∧
      (Order.starting type noStorage dryRun given).plan b =
        .ok { errands := startErrands known type noStorage dryRun given } := by
  cases selected : b.selectedJob? with
  | none =>
    refine .inl ⟨.noJobSelected, ?_, fun s i job ⟨_, _, _, ⟨_, chosen, _⟩, _⟩ => ?_⟩
    · cases given <;> exact Order.withSelected_of_none selected _
    · cases selected.symm.trans chosen
  | some known =>
    cases given with
    | none =>
      rw [Order.starting, Order.plan, Order.withSelected_of_some selected]
      split
      · exact .inl ⟨_, rfl, fun _ _ _ => not_resumes_of_none⟩
      · exact .inr ⟨known, rfl, rfl⟩
    | some password => exact .inr ⟨known, rfl, Order.withSelected_of_some selected _⟩

theorem jobs_of_failed {p : Poll} {errands : List Errand} {effect : Effect}
    {ran : Except Refusal Effect × Poll × Transcript}
    (named : ∀ errand ∈ errands, errand.request.name ∈ startCommands)
    (ends : Order.Ends (s.responder clock) [] p errands effect ran) {refusal : Refusal}
    (fails : ran.1 = .error refusal) :
    ∃ before failing after, errands = before ++ failing :: after ∧
      let heard := (s.responder clock).answers [] (before.map Errand.call)
      (s.replay clock heard).accepts (clock heard.length) failing.request = false ∧
        (s.replay clock ran.2.2).jobs = (s.replay clock heard).jobs := by
  cases ends with
  | accepted => cases fails
  | failed before failing after cause order _ refused =>
    subst order
    have known := named failing (List.mem_append_right _ List.mem_cons_self)
    refine ⟨before, failing, after, rfl, ?_, ?_⟩
    · rw [Bool.eq_false_iff]
      intro taken
      exact absurd (((outcome_answer_iff known).mpr taken).symm.trans refused) nofun
    · rw [List.map_append, Responder.answers_append]
      dsimp only [List.nil_append]
      rw [List.map_cons, List.map_nil, Responder.answers, Responder.answers, replay_concat]
      exact jobs_answer_of_failed known refused

variable {p : Poll} {type : ArchiveType} {noStorage dryRun : Bool} {given : Option String}
  {effect : Effect} {ran : Except Refusal Effect × Poll × Transcript}

theorem named_startErrands : ∀ errand ∈ startErrands known type noStorage dryRun given,
    errand.request.name ∈ startCommands := by
  have password : "CRYPT_PASSWORD" ∈ startCommands := by decide
  have start : "JOB_START" ∈ startCommands := by decide
  cases given with
  | none => exact List.forall_mem_singleton.mpr start
  | some text => exact List.forall_mem_cons.mpr ⟨password, List.forall_mem_singleton.mpr start⟩

theorem failed_of_resumes (here : s.jobs[i]? = some job) (selected : b.selectedJob? = some known)
    (ends : Order.Ends (s.responder clock) [] p (startErrands known type noStorage dryRun given) effect
      ran) (resumes : s.Resumes b given i job) : ∃ refusal, ran.1 = .error refusal := by
  cases ends with
  | failed => exact ⟨_, rfl⟩
  | accepted accepted =>
    obtain ⟨password, rfl, _⟩ := resumes.filled
    have started := accepted _ (List.mem_cons_of_mem _ List.mem_cons_self)
    have named := named_startErrands (startErrand known type noStorage dryRun)
      (List.mem_append_right (Option.map (passwordErrand known) (some password)).toList
        List.mem_cons_self)
    have taken := (outcome_answer_iff named).mp started
    have refused := not_accepts_start_of_resumes here selected resumes (clock 0) (clock 1) type
      noStorage dryRun
    exact absurd (refused.symm.trans taken) Bool.false_ne_true

/-- Only the password can come before the command that fails. -/
theorem before_of_startErrands {before after : List Errand} {failing : Errand}
    (order : startErrands known type noStorage dryRun given = before ++ failing :: after) :
    before = [] ∧ (∀ password, given = some password → failing = passwordErrand known password) ∨
      ∃ password, given = some password ∧ before = [passwordErrand known password] := by
  have alone {errand : Errand} {before : List Errand}
      (order : [errand] = before ++ failing :: after) : before = [] := by
    obtain ⟨first, _⟩ | ⟨_, last⟩ := List.append_eq_singleton_iff.mp order.symm
    · exact first
    · cases last
  cases given with
  | none => exact .inl ⟨alone order, nofun⟩
  | some password =>
    cases before with
    | nil =>
      obtain ⟨rfl, _⟩ := List.cons.inj order
      exact .inl ⟨rfl, fun _ same => congrArg (passwordErrand known) (Option.some.inj same)⟩
    | cons first before =>
      obtain ⟨rfl, rest⟩ := List.cons.inj order
      exact .inr ⟨password, rfl, congrArg _ (alone rest)⟩

theorem leftBy_of_failed (here : s.jobs[i]? = some job) (selected : b.selectedJob? = some known)
    (ends : Order.Ends (s.responder clock) [] p (startErrands known type noStorage dryRun given) effect
      ran) {refusal : Refusal} (fails : ran.1 = .error refusal) :
    ∃ other, (s.replay clock ran.2.2).jobs[i]? = some other ∧ s.LeftBy b given i job other := by
  obtain ⟨before, failing, after, order, refused, jobs⟩ := jobs_of_failed named_startErrands ends fails
  rw [jobs]
  obtain ⟨rfl, first⟩ | ⟨password, rfl, rfl⟩ := before_of_startErrands order
  -- The first command fails: a password that would let the job go on is not refused.
  · refine ⟨job, here, .refl fun resumes => ?_⟩
    obtain ⟨password, rfl, _⟩ := resumes.filled
    obtain rfl := first password rfl
    obtain ⟨orders, _⟩ := (resumes_iff here selected (clock 0) password).mp resumes
    obtain ⟨_, _, _, ⟨⟩, _, taken, _⟩ := exists_of_orders orders
    exact absurd (refused.symm.trans taken) Bool.false_ne_true
  · exact leftBy_answer_password here selected (clock 0) password

end

/-- Whatever the server is and whichever job is selected, a start that fails leaves every job as it
was but for its password, unless the job has gone on with the password that went first. The start
always fails then. -/
theorem failed_start_exact (clock : Nat → Int64) (s : Server) (p : Poll) (type : ArchiveType)
    (noStorage dryRun : Bool) (given : Option String) {i : Nat} {job : SimJob}
    (here : s.jobs[i]? = some job) :
    let ran := ((Order.starting type noStorage dryRun given).carryOut p).run (Server.serve clock) (0, s)
    (s.Resumes p.board given i job → ∃ refusal, ran.1 = .error refusal) ∧
      ∀ refusal, ran.1 = .error refusal →
        ∃ other, ran.2.2.2.jobs[i]? = some other ∧ s.LeftBy p.board given i job other := by
  intro ran
  have same : ran = _ := run_serve ((Order.starting type noStorage dryRun given).carryOut p) clock s []
  rw [same]
  dsimp only
  obtain ⟨refusal, planned, stays⟩ | ⟨known, selected, planned⟩ :=
    plan_starting p.board type noStorage dryRun given
  · rw [carryOut_apply, planned]
    exact ⟨fun resumes => absurd resumes (stays s i job), fun _ _ => ⟨job, here, .refl (stays s i job)⟩⟩
  · have ends := recorded_carryOut planned (List.concat_ne_nil _ _) (s.responder clock) []
    exact ⟨failed_of_resumes here selected ends, fun _ => leftBy_of_failed here selected ends⟩

/-- A job that runs keeps running: the start is refused, and the password is stored all the same. -/
theorem running_not_restarted :
    let s : Server := { jobs := [SimJob.new "b" "beta two" .running] }
    let ran := ((Order.starting .full false true (some "secret")).carryOut waitingConsole.poll).run
      (Server.serve fun _ => 0) (0, s)
    ∃ refusal other, ran.1 = .error refusal ∧ ran.2.2.2.jobs[0]? = some other ∧
      (SimJob.new "b" "beta two" .running).ButPassword other := by
  intro s ran
  have here : s.jobs[0]? = some (SimJob.new "b" "beta two" .running) := rfl
  have stays : ¬s.Resumes waitingConsole.poll.board (some "secret") 0
      (SimJob.new "b" "beta two" .running) := fun resumes => nomatch resumes.asks
  obtain ⟨refusal, fails⟩ : ∃ refusal, ran.1 = .error refusal := by
    have failed : ran.1.isOk = false := by decide +kernel
    cases outcome : ran.1 with
    | error refusal => exact ⟨refusal, rfl⟩
    | ok => rw [outcome] at failed; cases failed
  obtain ⟨other, there, left⟩ := (failed_start_exact (fun _ => 0) s waitingConsole.poll .full false
    true (some "secret") here).2 refusal fails
  exact ⟨refusal, other, fails, there, left.same.mpr stays⟩

/-- A job that waits for its password runs after a start that has failed, and not as the dry run that
was asked for. -/
theorem running_after_failed_start :
    let s : Server := { jobs := [SimJob.new "b" "beta two" .requestCryptPassword] }
    let ran := ((Order.starting .full false true (some "secret")).carryOut waitingConsole.poll).run
      (Server.serve fun _ => 0) (0, s)
    ran.1.isOk = false ∧
      ran.2.2.2.jobs.map (fun job => job.snapshot.state) = [.running] := by
  decide +kernel

end Server

end BackupConsole.Simulation
