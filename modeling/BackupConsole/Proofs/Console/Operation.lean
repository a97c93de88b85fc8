import BackupConsole.Proofs.Console.Pump
import BackupConsole.Proofs.Polling.Company
import BackupConsole.Proofs.Script.Invariant
import BackupConsole.Proofs.Script.Transcript

set_option autoImplicit false

namespace BackupConsole

open Wire Polling Step

/-- What the user has the console do, and the time that passes for its loop. -/
inductive Operation where
  | refresh
  | cycle (withJobList : Bool)
  | elapse (time : Nat)
  | select (uuid : Option String)
  | carryOut (order : Order)
  | pump
  | next
  | setSort (key : SortKey)
  | start
  | stop
  | subscribe (label : String)
  | unsubscribe (id : Nat)

namespace Console

def onPoll (f : Poll → Poll) (c : Console) : Console := { c with poll := f c.poll }

def selecting (c : Console) (uuid : Option String) : Console :=
  c.onPoll fun p => { p with board := (p.board.select uuid).2 }

def fetch : Script Poll Unit := do
  let _ ← Polling.refresh .schedules
  let _ ← Polling.refresh .jobInfo

theorem pieces_steady_fetch (p : Poll) :
    Pieces (Steady fun call => polls call = true) none p (fetch p) := by
  refine pieces_steady_bind (pieces_steady_refresh .schedules p) fun _ p => ?_
  exact pieces_steady_bind (pieces_steady_refresh .jobInfo p) fun _ p => .done (.refl p) ()

theorem poll_with (p : Poll) (c : Console) : Console.poll { c with poll := p } = p := rfl

theorem with_with (p q : Poll) (c : Console) :
    ({ ({ c with poll := q } : Console) with poll := p } : Console) = { c with poll := p } := rfl

theorem polling_bind {α β : Type} (first : Script Poll α) (next : α → Script Poll β) (c : Console) :
    polling (first >>= next) c = (polling first c).bind fun value => polling (next value) :=
  within_bind poll_with with_with (first c.poll) next c

def settled : Script Console Bool := fun c => .done true c.pump.2

theorem polling_fetch (c : Console) :
    (polling fetch c).bind (fun _ => settled) =
      (polling (Polling.refresh .schedules) c).bind fun _ =>
        polling (Polling.refresh .jobInfo) >>= fun _ => settled := by
  rw [fetch, polling_bind, bind_assoc]
  congr 1
  funext result c
  rw [polling_bind, bind_assoc]
  rfl

theorem select_apply (c : Console) (uuid : Option String) :
    select uuid c =
      if c.board.selected = uuid then .done false c
      else if uuid.isSome then
        (polling fetch (c.selecting uuid)).bind fun _ => settled
      else settled (c.selecting uuid) := by
  rw [select, Script.bind_apply, Script.change, Step.bind]
  by_cases same : c.board.selected = uuid
  · have stays : c.board.select uuid = (false, c.board) := if_pos same
    rw [if_pos same, stays]
    rfl
  · obtain ⟨b, moves⟩ : ∃ b, c.board.select uuid = (true, b) := ⟨_, if_neg same⟩
    have chosen : c.selecting uuid = { c with poll := { c.poll with board := b } } := by
      have same : c.poll.board.select uuid = (true, b) := moves
      rw [selecting, onPoll, same]
    rw [if_neg same, moves, chosen]
    cases uuid with
    | none => rfl
    | some uuid => exact (polling_fetch _).symm

/-! ## Running -/

theorem serving_onPoll (server : Responses) (call : Call) (sent : List Call) (c : Console) :
    serving onPoll server call sent c =
      ((serving id server call sent c.poll).1, (serving id server call sent c.poll).2.1,
        { c with poll := (serving id server call sent c.poll).2.2 }) := rfl

theorem run_polling {α : Type} (script : Script Poll α) (server : Responses) (c : Console)
    (sent : List Call) :
    (polling script c).runWith (serving onPoll server) sent =
      (((script c.poll).runWith (serving id server) sent).1,
        { c with poll := ((script c.poll).runWith (serving id server) sent).2.1 },
        ((script c.poll).runWith (serving id server) sent).2.2) :=
  runWith_within poll_with with_with (serving_onPoll server) (script c.poll) c sent

theorem run_polling_alone {α ω : Type} (script : Script Poll α) (serve : Call → ω → Answer × ω)
    (c : Console) (world : ω) :
    (polling script c).run serve world =
      (((script c.poll).run serve world).1,
        { c with poll := ((script c.poll).run serve world).2.1 },
        ((script c.poll).run serve world).2.2) := by
  refine runWith_within poll_with with_with ?_ (script c.poll) c world
  exact fun _ _ _ => rfl

theorem recorded_polling {α : Type} (script : Script Poll α) (server : Responder)
    (c : Console) (heard : Transcript) :
    (polling script c).recorded server heard =
      (((script c.poll).recorded server heard).1,
        { c with poll := ((script c.poll).recorded server heard).2.1 },
        ((script c.poll).recorded server heard).2.2) :=
  run_polling_alone script server.serve c heard

/-- What is asked for first after the choice of a job, unless it is under way. -/
def firstFetched? (p : Poll) (uuid : String) : Option Call :=
  if p.isBusy .schedules then
    if p.isBusy .jobInfo then none else some (pollCall (Flight.jobStatus uuid).request)
  else some (pollCall (Flight.schedules uuid).request)

section

variable {p : Poll} {uuid : String} (selected : p.board.selected = some uuid)
include selected

theorem refresh_schedules_apply :
    Polling.refresh .schedules p =
      if p.isBusy .schedules then .done (.ok .coalesced) p
      else land (.schedules uuid) (p.occupy .schedules) :=
  refresh_of_firstCall (by rw [Poll.firstCall, selected])

theorem refresh_jobInfo_apply :
    Polling.refresh .jobInfo p =
      if p.isBusy .jobInfo then .done (.ok .coalesced) p
      else land (.jobStatus uuid) (p.occupy .jobInfo) :=
  refresh_of_firstCall (by rw [Poll.firstCall, selected])

theorem call?_fetch : (fetch p).call? = firstFetched? p uuid := by
  rw [fetch, Script.bind_apply, refresh_schedules_apply selected, firstFetched?]
  split
  · rw [Step.bind, Script.bind_apply, refresh_jobInfo_apply selected]
    split
    · rfl
    · rw [land_apply]
      rfl
  · rw [land_apply]
    rfl

theorem fetch_of_busy (schedules : p.isBusy .schedules = true) (jobInfo : p.isBusy .jobInfo = true) :
    fetch p = .done () p := by
  rw [fetch, Script.bind_apply, refresh_schedules_apply selected, if_pos schedules, Step.bind,
    Script.bind_apply, refresh_jobInfo_apply selected, if_pos jobInfo]
  rfl

end

def fetched (server : Responses) (c : Console) (sent : List Call) : Console × List Call :=
  ({ c with poll := ((fetch c.poll).runWith (serving id server) sent).2.1 },
    ((fetch c.poll).runWith (serving id server) sent).2.2)

theorem run_select (uuid : Option String) (server : Responses) (c : Console) (sent : List Call) :
    (select uuid c).runWith (serving onPoll server) sent =
      if c.board.selected = uuid then (false, c, sent)
      else if uuid.isSome then
        (true, (fetched server (c.selecting uuid) sent).1.pump.2,
          (fetched server (c.selecting uuid) sent).2)
      else (true, (c.selecting uuid).pump.2, sent) := by
  rw [select_apply]
  split
  · rfl
  split
  · rw [runWith_bind, run_polling]
    rfl
  · rfl

end Console

namespace Operation

def script : Operation → Script Console Unit
  | .refresh => do let _ ← Console.refresh
  | .cycle withJobList => do let _ ← Console.polling (Polling.cycle withJobList)
  | .elapse time => Console.elapse time
  | .select uuid => do let _ ← Console.select uuid
  | .carryOut order => do let _ ← Console.carryOut order
  | .pump => Console.pumpAll
  | .next => Script.modify fun c => c.applyNext.2
  | .setSort key => Script.modify fun c => c.setSort key
  | .start => Script.modify fun c => c.start.2
  | .stop => Script.modify Console.stop
  | .subscribe label => Script.modify fun c => (c.subscribe label).2
  | .unsubscribe id => Script.modify fun c => (c.unsubscribe id).2

def perform (op : Operation) (server : Responses) (c : Console) : Console × List Call :=
  ((op.script c).runWith (serving Console.onPoll server) []).2

end Operation

/-! ## What operations ask for -/

theorem Console.asks_polling {α : Type} {I : Poll → Prop} {P : Call → Prop} {script : Script Poll α}
    (asks : script.Asks I P) : (polling script).Asks (fun c => I c.poll) P :=
  asks.within poll_with

section

variable {I : Console → Prop} {P : Call → Prop}
  (cycle : ∀ withJobList, (Console.polling (Polling.cycle withJobList)).Asks I P)

include cycle

theorem Console.asks_elapseWithin (looping : ∀ {c : Console} loop, I c → I { c with loop })
    (fuel time : Nat) : (elapseWithin fuel time).Asks I P := by
  have set (loop : Option Loop) : (Script.modify fun c => { c with loop := loop }).Asks I P :=
    Script.asks_modify fun _ => looping loop
  induction fuel generalizing time with
  | zero => exact Script.asks_pure ()
  | succ fuel ih =>
    refine Script.asks_get.bind fun c => ?_
    cases c.loop with
    | none => exact Script.asks_pure ()
    | some loop =>
      dsimp only
      split
      · exact set _
      · have next : (loopCycle loop.number (max c.poll.settings.interval.toNat 1)).Asks I P := by
          refine Script.asks_get.bind fun c => (cycle _).bind fun result => ?_
          cases result with
          | error stop => exact set _
          | ok done => exact set _
        exact next.bind fun _ => ih _

theorem Operation.asks_script (order : ∀ order, (Console.carryOut order).Asks I P)
    (aside : ∀ {c d : Console}, d.board = c.board → I c → I d) {op : Operation}
    (choice : ∀ uuid, op = .select uuid → (Console.select uuid).Asks I P) : op.script.Asks I P := by
  have pumps : Console.pumpAll.Asks I P := Script.asks_modify fun c => aside c.board_pump
  cases op with
  | refresh =>
    have refresh : Console.refresh.Asks I P :=
      (cycle true).bind fun result => pumps.bind fun _ => Script.asks_pure result
    exact refresh.bind fun _ => Script.asks_pure ()
  | cycle withJobList => exact (cycle withJobList).bind fun _ => Script.asks_pure ()
  | elapse time =>
    exact Console.asks_elapseWithin cycle (fun {c} loop => aside (c := c) rfl) _ time
  | select uuid => exact (choice uuid rfl).bind fun _ => Script.asks_pure ()
  | carryOut requested => exact (order requested).bind fun _ => Script.asks_pure ()
  | pump => exact pumps
  | next =>
    refine Script.asks_modify fun c => aside ?_
    rw [Console.board, c.poll_applyNext]
    rfl
  | start =>
    refine Script.asks_modify fun c => aside ?_
    unfold Console.start
    split <;> rfl
  | setSort _ | stop | subscribe _ | unsubscribe _ =>
    exact Script.asks_modify fun c => aside (c := c) rfl

end

end BackupConsole
