import BackupConsole.Proofs.Console.Undelivered
import BackupConsole.Proofs.Polling.Exchange
import BackupConsole.Proofs.Simulation.Polled

set_option autoImplicit false

namespace BackupConsole

open Wire Polling Simulation Step

namespace Simulation

/-- What happens to a console and the server it works with. -/
inductive Happening where
  | operate (op : Operation) (moment : Int64)
  | change (f : Server → Server)

def serve (moment : Int64) (call : Call) (s : Server) : Answer × Server :=
  s.answer moment call.request

def happen (now : Console × Transcript × Server) : Happening → Console × Transcript × Server
  | .operate op moment => ((op.script now.1).run (noted (serve moment)) now.2).2
  | .change f => (now.1, now.2.1, f now.2.2)

/-- No other job is chosen. -/
def Happening.Stays (uuid : String) : Happening → Prop
  | .operate (.select chosen) _ => chosen = some uuid
  | _ => True

variable {uuid : String}

theorem missing_choice {c : Console} (other : c.board.selected ≠ some uuid) {moment : Int64}
    {s : Server} {cause : Failure}
    (fails : (serve moment (schedulesCall uuid) s).1.outcome = .error cause) (heard : Transcript) :
    let chosen := happen (c, heard, s) (.operate (.select (some uuid)) moment)
    Missing uuid chosen.2.1 chosen.2.1 chosen.1.board := by
  have undelivered : (noted (serve moment) (schedulesCall uuid) (heard, s)).1.outcome =
      .error cause := fails
  obtain ⟨selected, schedules⟩ := Console.select_undelivered undelivered other
  dsimp only
  rw [happen, Operation.script, Script.bind_apply, Step.run, runWith_bind]
  exact .start selected schedules _

theorem missing_happen {before : Transcript} {now : Console × Transcript × Server}
    (missing : Missing uuid before now.2.1 now.1.board) {happening : Happening}
    (stays : happening.Stays uuid) :
    Missing uuid before (happen now happening).2.1 (happen now happening).1.board := by
  cases happening with
  | change f => exact missing
  | operate op moment =>
    have holds : op.script.Holds fun heard c => Missing uuid before heard c.board := by
      refine (Console.held_missing uuid before).script ?_
      rintro chosen rfl
      obtain rfl : chosen = some uuid := stays
      exact Console.holds_select_same uuid before
    exact (holds now.2.1 now.1 missing).noted (serve moment) now.2.2

theorem missing_foldl {before : Transcript} {now : Console × Transcript × Server}
    (missing : Missing uuid before now.2.1 now.1.board) {later : List Happening}
    (stays : ∀ happening ∈ later, happening.Stays uuid) :
    Missing uuid before (later.foldl happen now).2.1 (later.foldl happen now).1.board := by
  induction later generalizing now with
  | nil => exact missing
  | cons happening rest ih =>
    obtain ⟨stay, stays⟩ := List.forall_mem_cons.mp stays
    exact ih (missing_happen missing stay) stays

/-- Once the schedules of a job have not been delivered when it was chosen, whatever happens while it
stays selected, the console shows none and never asks for them again. It agrees with the server exactly
if the job has none there. -/
theorem schedules_not_retried {c : Console} {s : Server} (other : c.board.selected ≠ some uuid)
    {moment : Int64} {cause : Failure}
    (fails : (serve moment (schedulesCall uuid) s).1.outcome = .error cause) (heard : Transcript)
    (later : List Happening) (stays : ∀ happening ∈ later, happening.Stays uuid) :
    let chosen := happen (c, heard, s) (.operate (.select (some uuid)) moment)
    let now := later.foldl happen chosen
    Missing uuid chosen.2.1 now.2.1 now.1.board ∧
      ∀ job, now.2.2.findJob? uuid = some job →
        (now.1.board.schedules = job.schedules ↔ job.schedules = []) := by
  intro chosen now
  have missing : Missing uuid chosen.2.1 now.2.1 now.1.board :=
    missing_foldl (missing_choice other fails heard) stays
  refine ⟨missing, fun job _ => ?_⟩
  rw [missing.schedules]
  exact eq_comm

/-! ## A refresh that is answered in full -/

/-- Since `before` everything has been answered in full, and the server still works. -/
structure Supplied (uuid : String) (schedules : List Job.Schedule) (before : Transcript)
    (now : Poll × Transcript × Server) : Prop where
  selected : now.1.board.selected = some uuid
  works : now.2.2.Works uuid schedules
  full : ∃ more, now.2.1 = before ++ more ∧ ∀ exchange ∈ more, exchange.2.outcome = .ok ()

namespace Supplied

variable {schedules : List Job.Schedule} {before : Transcript} {p : Poll}
  {world : Transcript × Server}

theorem served (supplied : Supplied uuid schedules before (p, world)) {call : Call}
    (polls : call ∈ [listCall, stateCall, statusCall uuid, detailCall uuid]) (moment : Int64)
    {q : Poll} (selected : q.board.selected = p.board.selected) :
    Supplied uuid schedules before (q, (noted (serve moment) call world).2) := by
  obtain ⟨more, heard, full⟩ := supplied.full
  obtain ⟨answered, works⟩ := supplied.works.answers moment polls
  refine ⟨selected.trans supplied.selected, works, more ++ [(call, (serve moment call world.2).1)],
    ?_, List.forall_mem_append.mpr ⟨full, List.forall_mem_singleton.mpr answered⟩⟩
  exact (congrArg (· ++ _) heard).trans (List.append_assoc ..)

theorem landed {landing : Progress String × Poll}
    (supplied : Supplied uuid schedules before (landing.2, world))
    (own : ∀ other, landing.1 = .waiting other → other = uuid) (moment : Int64) :
    Supplied uuid schedules before
      ((Polling.landed landing).run (noted (serve moment)) world).2 := by
  obtain ⟨progress, p⟩ := landing
  cases progress with
  | ended result => exact supplied
  | waiting other =>
    obtain rfl := own other rfl
    exact supplied.served (by simp) moment (p.strode_stride (.receiveDetail other _)).selected

theorem refresh {kind : Kind} (other : kind ≠ .schedules)
    (supplied : Supplied uuid schedules before (p, world)) (moment : Int64) :
    Supplied uuid schedules before ((Polling.refresh kind p).run (noted (serve moment)) world).2 := by
  rw [refresh_apply]
  rcases begins : p.begin? kind with ⟨progress, q⟩
  cases progress with
  | ended result =>
    obtain rfl := Poll.begin?_ended begins
    exact supplied
  | waiting flight =>
    obtain ⟨first, -, rfl⟩ := Poll.begin?_waiting begins
    have about (chosen : String) (status : flight = .jobStatus chosen) : chosen = uuid := by
      subst status
      exact Option.some.inj ((selected_of_firstCall first).symm.trans supplied.selected)
    have polls : pollCall flight.request ∈ [listCall, stateCall, statusCall uuid, detailCall uuid] := by
      cases flight with
      | jobList => exact List.mem_cons_self
      | runState => exact List.mem_cons_of_mem _ List.mem_cons_self
      | schedules chosen => exact absurd (Poll.kind_of_firstCall first).symm other
      | jobStatus chosen =>
        obtain rfl := about chosen rfl
        exact List.mem_cons_of_mem _ (List.mem_cons_of_mem _ List.mem_cons_self)
    dsimp only
    rw [land_apply]
    refine landed (supplied.served polls moment ?_) (fun chosen waits => ?_) moment
    · exact ((p.occupy kind).strode_stride (.receive flight _)).selected
    · exact about chosen (flight_of_waiting waits)

theorem cycle (supplied : Supplied uuid schedules before (p, world)) (withJobList : Bool)
    (moment : Int64) :
    Supplied uuid schedules before ((Polling.cycle withJobList p).run (noted (serve moment)) world).2 := by
  cases ended : p.terminated with
  | true =>
    rw [cycle_apply, if_pos ended]
    exact supplied
  | false =>
    rw [Step.run, runWith_cycle _ _ _ _ ended]
    have listed : Supplied uuid schedules before (if withJobList then
        ((Polling.refresh .jobList p).run (noted (serve moment)) world).2 else (p, world)) := by
      split
      · exact supplied.refresh (by decide) moment
      · exact supplied
    rw [Step.run] at listed
    generalize (if withJobList then ((Polling.refresh .jobList p).runWith _ world).2
      else (p, world)) = now at listed ⊢
    obtain ⟨p, world⟩ := now
    have stated := listed.refresh (by decide : Kind.runState ≠ .schedules) moment
    rw [Step.run] at stated
    dsimp only
    generalize (Polling.refresh .runState p).runWith _ world = ran at stated ⊢
    obtain ⟨result, q, world⟩ := ran
    cases result with
    | error stop => exact stated
    | ok outcome => exact stated.refresh (by decide) moment

end Supplied

theorem happen_refresh (now : Console × Transcript × Server) (moment : Int64) :
    (happen now (.operate .refresh moment)).2 =
      ((refreshAll now.1.poll).run (noted (serve moment)) now.2).2.2 := by
  have alone := Console.run_polling_alone refreshAll (noted (serve moment)) now.1 now.2
  rw [Step.run] at alone
  rw [happen, Operation.script, Script.bind_apply, Step.run, runWith_bind, Console.refresh,
    Script.bind_apply, runWith_bind, alone]
  rfl

/-- The job a with one schedule, on a server that cannot be reached. -/
def outOfReach : Server :=
  { (({} : Server).addJob "a" "alpha" .waiting).addSchedule "a" { uuid := "s" } with offline := true }

def backInReach : Happening := .change fun s => { s with offline := false }

theorem serve_outOfReach : (serve 0 (schedulesCall "a") outOfReach).1.outcome =
    .error (.connection "simulated server offline") := by decide

theorem schedules_not_retried_outOfReach :
    let chosen := happen (Console.new {} .name, [], outOfReach) (.operate (.select (some "a")) 0)
    let now := [backInReach, .operate .refresh 0].foldl happen chosen
    Missing "a" chosen.2.1 now.2.1 now.1.board ∧
      ∀ job, now.2.2.findJob? "a" = some job →
        (now.1.board.schedules = job.schedules ↔ job.schedules = []) := by
  refine schedules_not_retried (by decide) serve_outOfReach [] _ ?_
  exact List.forall_mem_cons.mpr ⟨trivial, List.forall_mem_singleton.mpr trivial⟩

theorem missing_supplied {before : Transcript} {now : Console × Transcript × Server}
    {schedules : List Job.Schedule} (missing : Missing uuid before now.2.1 now.1.board)
    (works : now.2.2.Works uuid schedules) (moment : Int64) :
    let after := happen now (.operate .refresh moment)
    (∃ more, after.2.1 = now.2.1 ++ more ∧ ∀ exchange ∈ more, exchange.2.outcome = .ok ()) ∧
      Missing uuid before after.2.1 after.1.board ∧ after.2.2.Works uuid schedules := by
  have start : Supplied uuid schedules now.2.1 (now.1.poll, now.2) :=
    ⟨missing.selected, works, [], (List.append_nil _).symm, fun _ mem => absurd mem List.not_mem_nil⟩
  have supplied := start.cycle true moment
  refine ⟨?_, missing_happen missing trivial, ?_⟩
  · rw [happen_refresh]
    exact supplied.full
  · rw [happen_refresh]
    exact supplied.works

def chosenOutOfReach : Console × Transcript × Server :=
  [.operate (.select (some "a")) 0, backInReach].foldl happen (Console.new {} .name, [], outOfReach)

theorem works_chosenOutOfReach : chosenOutOfReach.2.2.Works "a" [{ uuid := "s" }] := by
  have jobs : chosenOutOfReach.2.2.jobs = outOfReach.jobs := by decide +kernel
  have dark : ((texts (SimJob.new "a" "alpha" .waiting).snapshot).all fun text =>
      text.toList.all fun c => !Text.isBlank c) = true := rfl
  have survive : ∀ text ∈ texts (SimJob.new "a" "alpha" .waiting).snapshot, Survives text :=
    fun text mem => .inr (Text.dark_of_all (List.all_eq_true.mp dark text mem))
  refine ⟨by decide +kernel, by decide +kernel, ?_, _, rfl, by decide +kernel⟩
  rw [jobs]
  exact List.forall_mem_singleton.mpr ⟨survive, .inr (Text.dark_of_all rfl), rfl⟩

/-- A refresh whose calls all succeed leaves the job without the schedule that it has. -/
theorem schedules_missing_after_refresh :
    let now := happen chosenOutOfReach (.operate .refresh 0)
    chosenOutOfReach.1.poll.terminated = false ∧
      (∃ more, now.2.1 = chosenOutOfReach.2.1 ++ more ∧
        ∀ exchange ∈ more, exchange.2.outcome = .ok ()) ∧
      now.1.board.selected = some "a" ∧ now.1.board.schedules = [] ∧
      ∃ job, now.2.2.findJob? "a" = some job ∧ job.schedules = [{ uuid := "s" }] := by
  have selected : chosenOutOfReach.1.board.selected = some "a" := by decide +kernel
  have schedules : chosenOutOfReach.1.board.schedules = [] := by decide +kernel
  obtain ⟨full, missing, works⟩ :=
    missing_supplied (.start selected schedules _) works_chosenOutOfReach 0
  exact ⟨by decide +kernel, full, missing.selected, missing.schedules, works.known⟩

end Simulation

end BackupConsole
