import BackupConsole.Proofs.Polling.Company
import BackupConsole.Proofs.Polling.Readings

set_option autoImplicit false

namespace BackupConsole

open Job Wire Step

namespace Polling

def queryOf? (call : Call) : Option Query :=
  if call.level = pollLevel then
    match call.request with
    | ⟨"JOB_LIST", []⟩ => some .list
    | ⟨"STATUS", []⟩ => some .state
    | ⟨"JOB_STATUS", [("jobUUID", uuid)]⟩ => some (.status uuid)
    | ⟨"JOB_INFO", [("jobUUID", uuid)]⟩ => some (.detail uuid)
    | ⟨"SCHEDULE_LIST", [("jobUUID", uuid)]⟩ => some (.schedules uuid)
    | _ => none
  else none

@[simp] theorem queryOf?_call (query : Query) : queryOf? query.call = some query := by
  cases query <;> rfl

theorem call_of_queryOf? {call : Call} {query : Query} (asks : queryOf? call = some query) :
    call = query.call := by
  obtain ⟨level, request⟩ := call
  unfold queryOf? at asks
  split at asks
  · rename_i polled
    obtain rfl : level = pollLevel := polled
    dsimp only at asks
    split at asks <;> cases asks <;> rfl
  · cases asks

theorem queryOf?_of_command {call : Call} (command : polls call = false) : queryOf? call = none := by
  refine Option.eq_none_iff_forall_ne_some.mpr fun query asks => ?_
  rw [call_of_queryOf? asks] at command
  cases query <;> cases command

def kindOf? (call : Call) : Option Kind := (queryOf? call).map Query.kind

def flagsOf (call : Option Call) : List Kind := (call.bind kindOf?).toList

theorem flagsOf_of_kind {call : Call} {kind : Kind} (own : kindOf? call = some kind) :
    flagsOf (some call) = [kind] := by
  rw [flagsOf, Option.bind_some, own, Option.toList_some]

theorem flagsOf_of_command {call : Call} (command : polls call = false) :
    flagsOf (some call) = [] := by
  rw [flagsOf, Option.bind_some, kindOf?, queryOf?_of_command command]
  rfl

theorem Poll.isBusy_iff_mem (p : Poll) (kind : Kind) : p.isBusy kind = true ↔ kind ∈ p.busy := by
  simp [Poll.isBusy]

theorem kindOf?_request (flight : Flight) : kindOf? (pollCall flight.request) = some flight.kind := by
  cases flight <;> rfl

end Polling

open Polling

namespace Board

def told (b : Board) (exchange : Call × Answer) : Board :=
  (queryOf? exchange.1).elim b (b.filed exchange.2)

theorem told_call (b : Board) (query : Query) (answer : Answer) :
    b.told (query.call, answer) = b.filed answer query := by
  rw [told, queryOf?_call, Option.elim_some]

theorem told_of_command (b : Board) {call : Call} (command : polls call = false) (answer : Answer) :
    b.told (call, answer) = b := by
  rw [told, queryOf?_of_command command, Option.elim_none]

theorem selected_told (b : Board) (exchange : Call × Answer) :
    (b.told exchange).selected = b.selected := by
  unfold told
  rcases queryOf? exchange.1 with _ | query
  · rfl
  · cases query <;> rfl

end Board

namespace Polling

/-! ## What a piece leaves behind -/

structure Filed (exchange : Call × Answer) (p q : Poll) : Prop where
  board : q.board = p.board.told exchange
  busy : q.busy = p.busy
  alive : (∀ answer, exchange = (stateCall, answer) → (reading answer).isOk = true) →
    q.terminated = p.terminated

/-- A piece stores what its answer tells, gives back the flag of the call that has been answered and
takes that of the next one, which is of one of these kinds or a command. -/
structure Orderly {α : Type} (kinds : List Kind) (cue : Cue) (p : Poll) (step : Step Poll α) :
    Prop where
  board : step.state.board = cue.elim p.board p.board.told
  flags : ∀ others, p.busy.Perm (flagsOf (cue.map Prod.fst) ++ others) →
    step.state.busy.Perm (flagsOf step.call? ++ others)
  nodup : p.busy.Nodup → step.state.busy.Nodup
  alive : (∀ answer, cue = some (stateCall, answer) → (reading answer).isOk = true) →
    step.state.terminated = p.terminated
  asks : flagsOf step.call? ⊆ kinds

theorem filed_filed (p : Poll) (answer : Answer) (query : Query) :
    Filed (query.call, answer) p (p.filed answer query) := by
  refine ⟨(p.board.told_call query answer).symm, rfl, fun reads => ?_⟩
  cases query with
  | list | status _ | detail _ | schedules _ => rfl
  | state =>
    have read := reads answer rfl
    have goes : stop? p.settings p.failures answer = none := by
      unfold stop?
      unfold reading at read
      cases told : Poll.decoded RunState.ofFields answer with
      | ok state => rfl
      | error cause =>
        rw [told] at read
        cases read
    simp only [Poll.filed, goes, Option.isSome_none, Bool.or_false]

/-! ## Scripts of polling -/

section

variable {α β : Type} {kinds : List Kind} {cue : Cue} {p q : Poll}

theorem Filed.released {exchange : Call × Answer} {kind : Kind} (filed : Filed exchange p q)
    (own : kindOf? exchange.1 = some kind) (value : α) :
    Orderly kinds (some exchange) p (.done value (q.release kind)) where
  board := filed.board
  flags := by
    intro others taken
    have mine : p.busy.Perm (kind :: others) := by
      rw [Option.map_some, flagsOf_of_kind own] at taken
      exact taken
    change (q.busy.erase kind).Perm others
    rw [filed.busy]
    simpa using mine.erase kind
  nodup := by
    intro nodup
    change (q.busy.erase kind).Nodup
    rw [filed.busy]
    exact nodup.erase kind
  alive := fun reads => filed.alive fun answer same => reads answer (congrArg some same)
  asks := List.nil_subset _

theorem Filed.goes_on {exchange : Call × Answer} {call : Call} {kind : Kind}
    (filed : Filed exchange p q) (own : kindOf? exchange.1 = some kind)
    (next : kindOf? call = some kind) (mem : kind ∈ kinds) (resume : Answer → Script Poll α) :
    Orderly kinds (some exchange) p (.ask call q resume) where
  board := filed.board
  flags := by
    intro others taken
    rw [Option.map_some, flagsOf_of_kind own] at taken
    change q.busy.Perm (flagsOf (some call) ++ others)
    rw [filed.busy, flagsOf_of_kind next]
    exact taken
  nodup := by
    intro nodup
    change q.busy.Nodup
    rw [filed.busy]
    exact nodup
  alive := fun reads => filed.alive fun answer same => reads answer (congrArg some same)
  asks := by
    change flagsOf (some call) ⊆ kinds
    rw [flagsOf_of_kind next]
    exact List.cons_subset.mpr ⟨mem, List.nil_subset _⟩

theorem Orderly.idle (value : α) : Orderly kinds none p (.done value p) :=
  ⟨rfl, fun _ taken => taken, id, fun _ => rfl, List.nil_subset _⟩

theorem orderly_land {flight : Flight} (mem : flight.kind ∈ kinds)
    (free : p.isBusy flight.kind = false) :
    Orderly kinds none p (land flight (p.occupy flight.kind)) := by
  have flags : flagsOf (some (pollCall flight.request)) = [flight.kind] :=
    flagsOf_of_kind (kindOf?_request flight)
  rw [land_apply]
  refine ⟨rfl, fun others taken => ?_, fun nodup => ?_, fun _ => rfl, ?_⟩
  · change (flight.kind :: p.busy).Perm (flagsOf (some (pollCall flight.request)) ++ others)
    rw [flags]
    exact taken.cons flight.kind
  · refine List.nodup_cons.mpr ⟨fun taken => ?_, nodup⟩
    rw [(p.isBusy_iff_mem flight.kind).mpr taken] at free
    cases free
  · change flagsOf (some (pollCall flight.request)) ⊆ kinds
    rw [flags]
    exact List.cons_subset.mpr ⟨mem, List.nil_subset _⟩

theorem orderly_receive (p : Poll) {flight : Flight} (mem : flight.kind ∈ kinds) (answer : Answer) :
    Orderly kinds (some (pollCall flight.request, answer)) p (landed (p.receive flight answer)) := by
  have filed := filed_filed p answer flight.query
  rw [flight.call_query] at filed
  obtain ⟨result, _, lands⟩ | ⟨uuid, rfl, lands⟩ := p.landed_receive flight answer
  · rw [lands]
    exact filed.released (kindOf?_request flight) result
  · rw [lands]
    exact filed.goes_on rfl rfl mem _

theorem orderly_receiveDetail (p : Poll) (uuid : String) (answer : Answer) :
    Orderly kinds (some (detailCall uuid, answer)) p
      (.done (p.receiveDetail uuid answer).1 (p.receiveDetail uuid answer).2) := by
  rw [Poll.receiveDetail_snd]
  exact (filed_filed p answer (.detail uuid)).released rfl _

theorem Orderly.congr {step : Step Poll α} {next : Step Poll β} (orderly : Orderly kinds cue p step)
    (state : next.state = step.state) (call : next.call? = step.call?) :
    Orderly kinds cue p next := by
  obtain ⟨board, flags, nodup, alive, asks⟩ := orderly
  rw [← state] at board flags nodup alive
  rw [← call] at flags asks
  exact ⟨board, flags, nodup, alive, asks⟩

theorem Orderly.followed {value : α} {next : Step Poll β}
    (orderly : Orderly kinds cue p (.done value q)) (rest : Orderly kinds none q next) :
    Orderly kinds cue p next where
  board := rest.board.trans orderly.board
  flags := fun others taken => rest.flags others (orderly.flags others taken)
  nodup := fun nodup => rest.nodup (orderly.nodup nodup)
  alive := fun reads => (rest.alive nofun).trans (orderly.alive reads)
  asks := rest.asks

theorem pieces_orderly_bind {step : Step Poll α} {next : α → Script Poll β}
    (first : Pieces (Orderly kinds) cue p step)
    (rest : ∀ value q, Pieces (Orderly kinds) none q (next value q)) :
    Pieces (Orderly kinds) cue p (step.bind next) :=
  first.join (fun orderly => orderly.congr rfl rfl) Orderly.followed rest

theorem pieces_orderly_refresh {kind : Kind} (mem : kind ∈ kinds) (p : Poll) :
    Pieces (Orderly kinds) none p (refresh kind p) := by
  apply pieces_refresh
  · intro p result _
    exact .idle result
  · intro p flight first free
    obtain rfl := Poll.kind_of_firstCall first
    exact orderly_land mem free
  · rintro p flight answer rfl
    exact orderly_receive p mem answer
  · intro p uuid answer _
    exact orderly_receiveDetail p uuid answer

def cycleKinds : List Kind := [.jobList, .runState, .jobInfo]

theorem pieces_orderly_stateAndInfo (p : Poll) :
    Pieces (Orderly cycleKinds) none p (stateAndInfo p) := by
  refine pieces_orderly_bind (pieces_orderly_refresh (by decide) p) fun result q => ?_
  cases result with
  | error stop => exact .idle _
  | ok outcome =>
    exact pieces_orderly_bind (pieces_orderly_refresh (by decide) q) fun _ q => .idle _

theorem pieces_orderly_cycle (withJobList : Bool) (p : Poll) :
    Pieces (Orderly cycleKinds) none p (cycle withJobList p) := by
  rw [cycle_apply]
  split
  · exact .idle _
  split
  · exact pieces_orderly_bind (pieces_orderly_refresh (by decide) p) fun _ q =>
      pieces_orderly_stateAndInfo q
  · exact pieces_orderly_stateAndInfo p

theorem pieces_orderly_sendAll {errands : List Errand}
    (commands : ∀ call ∈ errands.map Errand.call, polls call = false) (p : Poll) :
    Pieces (Orderly kinds) none p (sendAll errands p) := by
  induction errands generalizing p with
  | nil => exact .idle _
  | cons errand rest ih =>
    obtain ⟨command, commands⟩ := List.forall_mem_cons.mp commands
    have flagless : flagsOf (some errand.call) = [] := flagsOf_of_command command
    have unstored (answer : Answer) (q : Poll) (value : Unit) :
        Orderly kinds (some (errand.call, answer)) q (.done value q) := by
      refine ⟨(q.board.told_of_command command answer).symm, ?_, id, fun _ => rfl,
        List.nil_subset _⟩
      intro others taken
      rw [Option.map_some, flagless] at taken
      exact taken
    rw [sendAll_cons]
    refine ⟨⟨rfl, ?_, id, fun _ => rfl, ?_⟩, fun answer q => ?_⟩
    · intro others taken
      change p.busy.Perm (flagsOf (some errand.call) ++ others)
      rw [flagless]
      exact taken
    · change flagsOf (some errand.call) ⊆ kinds
      rw [flagless]
      exact List.nil_subset _
    · dsimp only
      cases answer.merged with
      | error cause => exact (unstored answer q ()).congr rfl rfl
      | ok row =>
        have later := ih commands q
        exact later.resumed ((unstored answer q ()).followed later.first)

theorem pieces_orderly_carryOut (order : Order) (p : Poll) :
    Pieces (Orderly cycleKinds) none p (order.carryOut p) := by
  have commands : ∀ call ∈ callsOf (order.plan p.board), polls call = false :=
    fun _ => polls_of_mem_commandsOf
  rw [carryOut_apply]
  cases planned : order.plan p.board with
  | error refusal => exact .idle _
  | ok plan =>
    rw [planned] at commands
    dsimp only
    split
    · exact .idle _
    refine pieces_orderly_bind (pieces_orderly_sendAll commands p) fun result q => ?_
    cases result with
    | error refusal => exact .idle _
    | ok done => exact pieces_orderly_bind (pieces_orderly_cycle true q) fun _ q => .idle _

end

end Polling

end BackupConsole
