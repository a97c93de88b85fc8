import BackupConsole.Order
import BackupConsole.Proofs.Polling.Answers
import BackupConsole.Proofs.Roster.Replacement

/-!
# Polling in company

Polling in the background goes on while a script waits for an answer. What it does at once, between
two calls, is a stride; whatever it does meanwhile is a list of strides. A script of polling is made
of strides itself, so in company of others it still does nothing but strides.
-/

set_option autoImplicit false

namespace BackupConsole

open Wire Step

namespace Polling

inductive Stride where
  | begin (kind : Kind)
  | receive (flight : Flight) (answer : Answer)
  | receiveDetail (uuid : String) (answer : Answer)

def Stride.relists : Stride → Bool
  | .receive .jobList _ => true
  | _ => false

namespace Poll

def stride (p : Poll) : Stride → Poll
  | .begin kind => (p.begin? kind).2
  | .receive flight answer => (p.receive flight answer).2
  | .receiveDetail uuid answer => (p.receiveDetail uuid answer).2

def strides (p : Poll) (strides : List Stride) : Poll := strides.foldl stride p

theorem strides_append (p : Poll) (strides more : List Stride) :
    p.strides (strides ++ more) = (p.strides strides).strides more := List.foldl_append

def Moved (p q : Poll) : Prop := ∃ strides, q = p.strides strides

namespace Moved

variable {p q r : Poll}

theorem refl (p : Poll) : Moved p p := ⟨[], rfl⟩

theorem strides (p : Poll) (strides : List Stride) : Moved p (p.strides strides) := ⟨strides, rfl⟩

theorem one (p : Poll) (stride : Stride) : Moved p (p.stride stride) := ⟨[stride], rfl⟩

theorem trans (first : Moved p q) (second : Moved q r) : Moved p r := by
  obtain ⟨strides, rfl⟩ := first
  obtain ⟨more, rfl⟩ := second
  exact ⟨strides ++ more, (strides_append p strides more).symm⟩

theorem kept {I : Poll → Prop} (moved : Moved p q) (stays : ∀ p stride, I p → I (p.stride stride))
    (holds : I p) : I q := by
  obtain ⟨strides, rfl⟩ := moved
  induction strides generalizing p with
  | nil => exact holds
  | cons stride strides ih => exact ih (stays p stride holds)

end Moved

/-! ## What a stride does -/

/-- A stride sets flags, or files the answer to a query. -/
theorem stride_cases (p : Poll) (stride : Stride) :
    (∃ busy, p.stride stride = { p with busy }) ∨
      ∃ answer query busy, (query = .list → stride.relists = true) ∧
        p.stride stride = { p.filed answer query with busy } := by
  cases stride with
  | begin kind =>
    refine .inl ?_
    simp only [Poll.stride, begin?]
    split
    · exact ⟨p.busy, rfl⟩
    · split
      · exact ⟨p.busy, rfl⟩
      · exact ⟨_, rfl⟩
  | receive flight answer =>
    obtain ⟨busy, same⟩ := p.receive_snd flight answer
    refine .inr ⟨answer, flight.query, busy, ?_, same⟩
    intro list
    cases flight <;> cases list
    rfl
  | receiveDetail uuid answer =>
    refine .inr ⟨answer, .detail uuid, _, ?_, p.receiveDetail_snd uuid answer⟩
    rintro ⟨⟩

/-- From `p` to `q` the roster has changed at most as one answer can change it. -/
inductive Relisted (relists : Bool) (p q : Roster) (news : List Event) : Prop where
  | kept (same : q = p)
  | updated (job : Job.Snapshot) (same : q = p.update job)
  | replaced (list : relists = true) (jobs : List Job.Snapshot) (same : q = p.replace jobs)
    (announced : .jobs ∈ news)

structure Strode (relists : Bool) (p q : Poll) : Prop where
  selected : q.board.selected = p.board.selected
  terminated : p.terminated = true → q.terminated = true
  told : ∃ news, q.events = p.events ++ news ∧
    Relisted relists p.board.roster q.board.roster news

theorem Relisted.consistent {relists : Bool} {r next : Roster} {news : List Event}
    (relisted : Relisted relists r next news) (consistent : r.Consistent) : next.Consistent := by
  cases relisted with
  | kept same => exact same ▸ consistent
  | updated job same => exact same ▸ consistent.update job
  | replaced _ jobs same _ => exact same ▸ consistent.replace jobs

theorem Strode.consistent {relists : Bool} {p q : Poll} (strode : Strode relists p q)
    (consistent : p.board.roster.Consistent) : q.board.roster.Consistent := by
  obtain ⟨_, _, relisted⟩ := strode.told
  exact relisted.consistent consistent

theorem Strode.refl (relists : Bool) (p : Poll) : Strode relists p p :=
  ⟨rfl, id, [], (List.append_nil _).symm, .kept rfl⟩

theorem Strode.busy {relists : Bool} {p q : Poll} (strode : Strode relists p q) (busy : List Kind) :
    Strode relists p { q with busy } := ⟨strode.selected, strode.terminated, strode.told⟩

theorem strode_filed (p : Poll) (answer : Answer) {query : Query} {relists : Bool}
    (list : query = .list → relists = true) : Strode relists p (p.filed answer query) := by
  refine ⟨?_, fun stopped => ?_, p.news answer query, rfl, ?_⟩
  · cases query <;> rfl
  · cases query with
    | state => exact Bool.or_eq_true_iff.mpr (.inl stopped)
    | list | status _ | detail _ | schedules _ => exact stopped
  · cases query with
    | state | detail _ | schedules _ => exact .kept rfl
    | list =>
      simp only [filed, Board.filed, relisted, news, listNews]
      cases answer.outcome with
      | error cause => exact .kept rfl
      | ok done => exact .replaced (list rfl) _ rfl List.mem_cons_self
    | status uuid =>
      simp only [filed, Board.filed]
      cases toldJob? uuid answer with
      | none => exact .kept rfl
      | some job => exact .updated job rfl

theorem strode_stride (p : Poll) (stride : Stride) : Strode stride.relists p (p.stride stride) := by
  obtain ⟨busy, same⟩ | ⟨answer, query, busy, list, same⟩ := p.stride_cases stride
  · rw [same]
    exact (Strode.refl _ p).busy busy
  · rw [same]
    exact (strode_filed p answer list).busy busy

namespace Moved

variable {p q : Poll}

theorem selected (moved : Moved p q) : q.board.selected = p.board.selected :=
  moved.kept (I := fun q => q.board.selected = p.board.selected)
    (fun q stride same => (strode_stride q stride).selected.trans same) rfl

theorem terminated (moved : Moved p q) (stopped : p.terminated = true) : q.terminated = true :=
  moved.kept (fun q stride => (strode_stride q stride).terminated) stopped

end Moved

end Poll

/-! ## Scripts of strides -/

def pollNames : List String := ["JOB_LIST", "STATUS", "JOB_STATUS", "JOB_INFO", "SCHEDULE_LIST"]

def polls (call : Call) : Bool := call.request.name ∈ pollNames

theorem name_ne_of_command {call : Call} (command : polls call = false) {name : String}
    (mem : name ∈ pollNames) : call.request.name ≠ name := by
  rintro rfl
  rw [polls, decide_eq_true mem] at command
  cases command

/-- A piece does nothing but strides, and makes no calls but those of `P`. -/
structure Steady {α : Type} (P : Call → Prop) (cue : Cue) (p : Poll) (step : Step Poll α) :
    Prop where
  moved : p.Moved step.state
  calls : ∀ call, step.call? = some call → P call

section

variable {α β : Type} {P Q : Call → Prop} {cue : Cue} {p q : Poll}

theorem Steady.imp {step : Step Poll α} (steady : Steady P cue p step)
    (weaker : ∀ call, P call → Q call) : Steady Q cue p step :=
  ⟨steady.moved, fun call next => weaker call (steady.calls call next)⟩

theorem Steady.done (moved : p.Moved q) (value : α) : Steady P cue p (.done value q) :=
  ⟨moved, fun _ impossible => nomatch impossible⟩

theorem Steady.ask {call : Call} {resume : Answer → Script Poll α} (moved : p.Moved q)
    (allowed : P call) : Steady P cue p (.ask call q resume) :=
  ⟨moved, fun _ same => Option.some.inj same ▸ allowed⟩

theorem pieces_steady_bind {step : Step Poll α} {next : α → Script Poll β}
    (first : Pieces (Steady P) cue p step)
    (rest : ∀ value q, Pieces (Steady P) none q (next value q)) :
    Pieces (Steady P) cue p (step.bind next) :=
  first.join (fun steady => ⟨steady.moved, steady.calls⟩)
    (fun steady later => ⟨steady.moved.trans later.moved, later.calls⟩) rest

end

theorem pieces_steady_refresh (kind : Kind) (p : Poll) :
    Pieces (Steady fun call => polls call = true) none p (refresh kind p) := by
  apply pieces_refresh
  · intro p result _
    exact .done (.refl p) result
  · intro p flight first free
    have begun : p.stride (.begin kind) = p.occupy kind := by
      simp [Poll.stride, Poll.begin?, first, free]
    rw [land_apply, ← begun]
    refine .ask (.one p _) ?_
    cases flight <;> rfl
  · intro p flight answer _
    have moved : p.Moved (p.receive flight answer).2 := .one p (.receive flight answer)
    rcases received : p.receive flight answer with ⟨progress, q⟩
    rw [received] at moved
    cases progress with
    | ended result => exact .done moved result
    | waiting uuid => exact .ask moved rfl
  · intro p uuid answer _
    exact .done (.one p (.receiveDetail uuid answer)) _

theorem pieces_steady_cycle (withJobList : Bool) (p : Poll) :
    Pieces (Steady fun call => polls call = true) none p (cycle withJobList p) := by
  have rest (p : Poll) : Pieces (Steady fun call => polls call = true) none p (stateAndInfo p) := by
    refine pieces_steady_bind (pieces_steady_refresh .runState p) ?_
    intro result q
    cases result with
    | error stop => exact .done (.refl q) _
    | ok outcome =>
      exact pieces_steady_bind (pieces_steady_refresh .jobInfo q) fun _ q => .done (.refl q) _
  rw [cycle_apply]
  split
  · exact .done (.refl p) _
  split
  · exact pieces_steady_bind (pieces_steady_refresh .jobList p) fun _ q => rest q
  · exact rest p

end Polling

/-! ## Orders -/

open Polling

def Errand.call (errand : Errand) : Call := ⟨commandLevel, errand.request⟩

theorem sendAll_cons (errand : Errand) (rest : List Errand) (p : Poll) :
    sendAll (errand :: rest) p = .ask errand.call p fun answer p =>
      match answer.merged with
      | .error cause => .done (.error (.command errand.action cause)) p
      | .ok _ => sendAll rest p := by
  rw [sendAll, Script.bind_apply, Script.ask, Step.bind]
  congr 1
  funext answer p
  rw [Step.bind]
  cases answer.merged <;> rfl

def afterCommands (effect : Effect) : Except Refusal Unit → Script Poll (Except Refusal Effect)
  | .error refusal => pure (.error refusal)
  | .ok () => do
    let _ ← refreshAll
    return .ok effect

theorem carryOut_apply (order : Order) (p : Poll) :
    order.carryOut p =
      match order.plan p.board with
      | .error refusal => .done (.error refusal) p
      | .ok plan =>
        if plan.errands.isEmpty then .done (.ok plan.effect) p
        else (sendAll plan.errands p).bind (afterCommands plan.effect) := by
  rw [Order.carryOut, Script.bind_apply, Script.get, Step.bind]
  cases order.plan p.board with
  | error refusal => rfl
  | ok plan =>
    dsimp only
    cases plan.errands.isEmpty
    · rw [if_neg Bool.false_ne_true, if_neg Bool.false_ne_true, Script.bind_apply]
      congr 1
    · rfl

theorem pieces_steady_sendAll (errands : List Errand) (p : Poll) :
    Pieces (Steady fun call => call ∈ errands.map Errand.call) none p (sendAll errands p) := by
  induction errands generalizing p with
  | nil => exact .done (.refl p) _
  | cons errand rest ih =>
    rw [sendAll_cons]
    refine ⟨.ask (.refl p) (List.mem_cons_self ..), ?_⟩
    intro answer p
    dsimp only
    cases answer.merged with
    | error cause => exact .done (.refl p) _
    | ok row =>
      have later : Pieces (Steady fun call => call ∈ (errand :: rest).map Errand.call) none p
          (sendAll rest p) :=
        (ih p).imp fun steady => steady.imp fun _ mem => List.mem_cons_of_mem _ mem
      exact later.resumed ⟨later.first.moved, later.first.calls⟩

def callsOf : Except Refusal Plan → List Call
  | .error _ => []
  | .ok plan => plan.errands.map Errand.call

def commandsOf (b : Board) (order : Order) : List Call := callsOf (order.plan b)

def Order.aboutServer : Order → Bool
  | .pause _ _ | .toggle => true
  | _ => false

theorem selected_of_selectedJob? {b : Board} {job : Job.Snapshot} (selected : b.selectedJob? = some job)
    (consistent : b.roster.Consistent) : b.selected = some job.uuid := by
  obtain ⟨uuid, chosen, found⟩ := Option.bind_eq_some_iff.mp selected
  obtain ⟨h, here, rfl⟩ := Option.map_eq_some_iff.mp found
  rw [chosen, (consistent.get?_eq_some_iff.mp here).2]

theorem mem_callsOf_withSelected {b : Board} {plan : Job.Snapshot → Except Refusal Plan} {call : Call}
    (mem : call ∈ callsOf (b.withSelected plan)) :
    ∃ job, b.selectedJob? = some job ∧ call ∈ callsOf (plan job) := by
  unfold Board.withSelected at mem
  cases selected : b.selectedJob? with
  | none =>
    rw [selected] at mem
    cases mem
  | some job =>
    rw [selected] at mem
    exact ⟨job, rfl, mem⟩

structure AboutJob (job : Job.Snapshot) (call : Call) : Prop where
  uuid : call.request.get? "jobUUID" = some job.uuid
  command : polls call = false

theorem aboutJob_startErrand (job : Job.Snapshot) (type : Job.ArchiveType) (noStorage dryRun : Bool) :
    AboutJob job (startErrand job type noStorage dryRun).call := ⟨rfl, rfl⟩

theorem aboutJob_jobPlan {job : Job.Snapshot} {action : JobAction} {name : String}
    {args : List (String × String)} (command : name ∉ pollNames) {call : Call}
    (mem : call ∈ callsOf (.ok (jobPlan action name job args))) : AboutJob job call := by
  obtain rfl := List.mem_singleton.mp mem
  exact ⟨rfl, decide_eq_false command⟩

theorem aboutJob_of_mem_commandsOf {b : Board} {order : Order} (aboutJob : order.aboutServer = false)
    {call : Call} (mem : call ∈ commandsOf b order) :
    ∃ job, b.selectedJob? = some job ∧ AboutJob job call := by
  unfold commandsOf Order.plan at mem
  cases order with
  | start type noStorage dryRun =>
    obtain ⟨job, selected, mem⟩ := mem_callsOf_withSelected mem
    refine ⟨job, selected, ?_⟩
    split at mem
    · cases mem
    · obtain rfl := List.mem_singleton.mp mem
      exact aboutJob_startErrand job type noStorage dryRun
  | startWithPassword type noStorage dryRun password =>
    obtain ⟨job, selected, mem⟩ := mem_callsOf_withSelected mem
    refine ⟨job, selected, ?_⟩
    obtain rfl | mem := List.mem_cons.mp mem
    · exact ⟨rfl, rfl⟩
    · obtain rfl := List.mem_singleton.mp mem
      exact aboutJob_startErrand job type noStorage dryRun
  | abort | reset | loadVolume _ | unloadVolume =>
    obtain ⟨job, selected, mem⟩ := mem_callsOf_withSelected mem
    exact ⟨job, selected, aboutJob_jobPlan (by decide) mem⟩
  | trigger schedule =>
    dsimp only at mem
    split at mem
    · obtain ⟨job, selected, mem⟩ := mem_callsOf_withSelected mem
      exact ⟨job, selected, aboutJob_jobPlan (by decide) mem⟩
    · cases mem
  | pause _ _ | toggle => cases aboutJob

theorem polls_of_mem_commandsOf {b : Board} {order : Order} {call : Call}
    (mem : call ∈ commandsOf b order) : polls call = false := by
  by_cases aboutServer : order.aboutServer = true
  · unfold commandsOf Order.plan at mem
    cases order with
    | pause seconds modes =>
      dsimp only at mem
      split at mem
      · cases mem
      · obtain rfl := List.mem_singleton.mp mem
        rfl
    | toggle =>
      dsimp only at mem
      split at mem <;>
        · obtain rfl := List.mem_singleton.mp mem
          rfl
    | _ => cases aboutServer
  · obtain ⟨_, _, about⟩ :=
      aboutJob_of_mem_commandsOf (Bool.not_eq_true _ ▸ aboutServer) mem
    exact about.command

theorem pieces_steady_carryOut (order : Order) (p : Poll) :
    Pieces (Steady fun call => call ∈ commandsOf p.board order ∨ polls call = true) none p
      (order.carryOut p) := by
  rw [carryOut_apply, commandsOf]
  cases order.plan p.board with
  | error refusal => exact .done (.refl p) _
  | ok plan =>
    dsimp only
    split
    · exact .done (.refl p) _
    refine pieces_steady_bind ((pieces_steady_sendAll plan.errands p).imp fun steady =>
      steady.imp fun _ => .inl) ?_
    intro result q
    cases result with
    | error refusal => exact .done (.refl q) _
    | ok done =>
      refine pieces_steady_bind ((pieces_steady_cycle true q).imp fun steady =>
        steady.imp fun _ => .inr) fun _ q => .done (.refl q) _

/-! ## Running in company -/

/-- The answer to a call, and what polling in the background does before it comes. -/
structure Response where
  answer : Answer
  meanwhile : List Stride := []

/-- A server responds to each call; its response may depend on the calls before. -/
abbrev Responses := List Call → Call → Response

/-- Answers the calls of a script and notes them, while polling goes on in a part of the state. -/
def serving {σ : Type} (lift : (Poll → Poll) → σ → σ) (server : Responses) (call : Call)
    (sent : List Call) (state : σ) : Answer × List Call × σ :=
  ((server sent call).answer, sent ++ [call],
    lift (fun p => p.strides (server sent call).meanwhile) state)

/-- What polling in the background does during some calls that are made after others. -/
def overheard (server : Responses) : List Call → List Call → List Stride
  | _, [] => []
  | sent, call :: more => (server sent call).meanwhile ++ overheard server (sent ++ [call]) more

namespace Step

section

variable {α : Type} {P : Call → Prop} {cue : Cue} {p : Poll} {step : Step Poll α}

theorem moved_run (pieces : Pieces (Steady P) cue p step) (server : Responses)
    (sent : List Call) : p.Moved (step.runWith (serving id server) sent).2.1 :=
  Pieces.runWith (T := Poll.Moved) Poll.Moved.trans (fun _ _ q => .strides q _)
    (pieces.imp Steady.moved) sent

theorem noted_run (pieces : Pieces (Steady P) cue p step) {ν : Type} {Q : ν → Prop}
    {serve : Call → List ν → Poll → Answer × List ν × Poll}
    (notes : ∀ call noted p, P call → ∃ note, (serve call noted p).2.1 = noted ++ [note] ∧ Q note)
    (noted : List ν) :
    ∃ more, (step.runWith serve noted).2.2 = noted ++ more ∧ ∀ note ∈ more, Q note := by
  induction step generalizing cue p noted with
  | done value q => exact ⟨[], (List.append_nil _).symm, fun _ mem => nomatch mem⟩
  | ask call q resume ih =>
    obtain ⟨note, notes, allowed⟩ := notes call noted q (pieces.1.calls call rfl)
    obtain ⟨more, rest, others⟩ := ih (serve call noted q).1 (serve call noted q).2.2
      (pieces.2 _ _) (serve call noted q).2.1
    refine ⟨note :: more, ?_, List.forall_mem_cons.mpr ⟨allowed, others⟩⟩
    rw [List.append_cons, ← notes]
    exact rest

theorem calls_run (pieces : Pieces (Steady P) cue p step) (server : Responses)
    (sent : List Call) :
    ∃ more, (step.runWith (serving id server) sent).2.2 = sent ++ more ∧ ∀ call ∈ more, P call :=
  noted_run pieces (fun call _ _ allowed => ⟨call, rfl, allowed⟩) sent

end

theorem prefix_run {σ α : Type} (lift : (Poll → Poll) → σ → σ) (server : Responses)
    (step : Step σ α) (sent : List Call) :
    sent <+: (step.runWith (serving lift server) sent).2.2 := by
  induction step generalizing sent with
  | done value state => exact List.prefix_refl sent
  | ask call state resume ih => exact (List.prefix_append sent [call]).trans (ih _ _ _)

theorem head?_run {σ α : Type} (lift : (Poll → Poll) → σ → σ) (server : Responses)
    (step : Step σ α) : (step.runWith (serving lift server) []).2.2.head? = step.call? := by
  cases step with
  | done value state => rfl
  | ask call state resume =>
    obtain ⟨more, sent⟩ := prefix_run lift server
      (resume (server [] call).answer (lift (fun p => p.strides (server [] call).meanwhile) state))
      [call]
    change (Step.runWith (serving lift server) _ [call]).2.2.head? = some call
    rw [← sent]
    rfl

end Step

theorem run_sendAll (errands : List Errand) (server : Responses) (p : Poll) (sent : List Call) :
    ∃ result more, (sendAll errands p).runWith (serving id server) sent =
      (result, p.strides (overheard server sent more), sent ++ more) ∧
      more <+: errands.map Errand.call := by
  -- The first command that fails is the last one sent.
  induction errands generalizing p sent with
  | nil => exact ⟨_, [], by rw [List.append_nil]; rfl, List.nil_prefix⟩
  | cons errand rest ih =>
    rw [sendAll_cons, Step.runWith]
    simp only [serving, id]
    cases (server sent errand.call).answer.merged with
    | error cause =>
      refine ⟨.error (.command errand.action cause), [errand.call], ?_,
        (List.prefix_cons_inj _).mpr List.nil_prefix⟩
      rw [overheard, overheard, List.append_nil]
      rfl
    | ok row =>
      obtain ⟨result, more, ran, start⟩ :=
        ih (p.strides (server sent errand.call).meanwhile) (sent ++ [errand.call])
      refine ⟨result, errand.call :: more, ?_, (List.prefix_cons_inj _).mpr start⟩
      rw [overheard, Poll.strides_append, List.append_cons sent errand.call more]
      exact ran

end BackupConsole
