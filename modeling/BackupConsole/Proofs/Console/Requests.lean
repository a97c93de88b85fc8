import BackupConsole.Proofs.Console.Stopped
import BackupConsole.Proofs.Wire.RequestLine

set_option autoImplicit false

namespace BackupConsole

open Text Job Wire Polling Step Console

/-! ## What is bare -/

theorem bare_yesNo (value : Bool) : Bare (if value then "yes" else "no") := by
  cases value <;> decide

theorem bare_mask (modes : PauseModes) : Bare modes.mask := by
  obtain ⟨create, storage, restore, indexUpdate, indexMaintenance⟩ := modes
  revert create storage restore indexUpdate indexMaintenance
  decide +kernel

theorem bare_of_isToken {text : String} (token : isToken text = true) : Bare text := by
  rw [isToken, Bool.and_eq_true, List.all_eq_true] at token
  refine bare_of_dark fun c mem => ?_
  have ordinary := token.2 c mem
  rw [Bool.not_eq_true', Bool.or_eq_false_iff] at ordinary
  exact ordinary.1

theorem dark_hexDigit (n : Nat) (small : n < 16) : isBlank (hexDigit n) = false := by
  revert n
  decide

theorem bare_toHex (text : String) : Bare (toHex text) := by
  refine bare_of_dark fun c mem => ?_
  rw [toHex, String.toList_ofList, List.mem_flatMap] at mem
  obtain ⟨byte, _, digit⟩ := mem
  have size : byte.toNat < 256 := byte.toNat_lt
  rcases List.mem_cons.mp digit with rfl | digit
  · exact dark_hexDigit _ (by omega)
  · obtain rfl := List.mem_singleton.mp digit
    exact dark_hexDigit _ (by omega)

/-! ## Requests -/

/-- All of the request can stand on a line but for the UUIDs of jobs, and these are from `own`. -/
structure Worded (own : String → Prop) (r : Request) : Prop where
  plain : r.Plain
  values : ∀ arg ∈ r.args, if arg.1 = "jobUUID" then own arg.2 else Bare arg.2

namespace Worded

variable {own : String → Prop}

theorem intact_iff {r : Request} (worded : Worded own r) (id : UInt64) :
    r.Intact id ↔ ∀ uuid, ("jobUUID", uuid) ∈ r.args → Bare uuid := by
  rw [worded.plain.intact_iff]
  constructor
  · exact fun bare uuid mem => bare _ mem
  · rintro bare ⟨key, value⟩ mem
    have worded := worded.values _ mem
    by_cases job : key = "jobUUID"
    · exact bare value (job ▸ mem)
    · rwa [if_neg job] at worded

theorem owned {r : Request} (worded : Worded own r) {uuid : String}
    (mem : ("jobUUID", uuid) ∈ r.args) : own uuid := by
  have owned := worded.values _ mem
  rwa [if_pos rfl] at owned

theorem alone {name : String} (bare : Bare name) : Worded own { name } :=
  ⟨⟨bare, fun _ mem => nomatch mem⟩, fun _ mem => nomatch mem⟩

section

variable {name : String} {args : List (String × String)} (worded : Worded own { name, args })

include worded

theorem cons {key value : String} (bareKey : Bare key ∧ '=' ∉ key.toList)
    (allowed : if key = "jobUUID" then own value else Bare value) :
    Worded own { name, args := (key, value) :: args } :=
  ⟨⟨worded.plain.name, List.forall_mem_cons.mpr ⟨bareKey, worded.plain.keys⟩⟩,
    List.forall_mem_cons.mpr ⟨allowed, worded.values⟩⟩

theorem job {uuid : String} (known : own uuid) :
    Worded own { name, args := ("jobUUID", uuid) :: args } :=
  worded.cons (by decide) (by rwa [if_pos rfl])

theorem arg {key value : String} (bareKey : Bare key ∧ '=' ∉ key.toList) (other : key ≠ "jobUUID")
    (bare : Bare value) : Worded own { name, args := (key, value) :: args } :=
  worded.cons bareKey (by rwa [if_neg other])

end

theorem flight {flight : Flight} (known : ∀ uuid,
    (flight = .jobStatus uuid ∨ flight = .schedules uuid) → own uuid) :
    Worded own flight.request := by
  cases flight with
  | jobList | runState => exact alone (by decide)
  | jobStatus uuid => exact (alone (by decide)).job (known uuid (.inl rfl))
  | schedules uuid => exact (alone (by decide)).job (known uuid (.inr rfl))

theorem startErrand {job : Snapshot} (known : own job.uuid) (type : ArchiveType)
    (noStorage dryRun : Bool) : Worded own (startErrand job type noStorage dryRun).request := by
  have dryRuns : Worded own
      { name := "JOB_START", args := [("dryRun", if dryRun then "yes" else "no")] } :=
    (alone (by decide)).arg (by decide) (by decide) (bare_yesNo dryRun)
  have stores := dryRuns.arg (by decide : Bare "noStorage" ∧ '=' ∉ "noStorage".toList) (by decide)
    (bare_yesNo noStorage)
  have typed := stores.arg (by decide : Bare "archiveType" ∧ '=' ∉ "archiveType".toList) (by decide)
    (bare_of_dark type.dark_name)
  exact typed.job known

theorem passwordErrand {job : Snapshot} (known : own job.uuid) (password : String) :
    Worded own (passwordErrand job password).request := by
  have hidden : Worded own
      { name := "CRYPT_PASSWORD", args := [("encryptedPassword", toHex password)] } :=
    (alone (by decide)).arg (by decide) (by decide) (bare_toHex password)
  have typed := hidden.arg (by decide : Bare "encryptType" ∧ '=' ∉ "encryptType".toList) (by decide)
    (by decide : Bare "NONE")
  exact typed.job known

end Worded

theorem worded_jobPlan {own : String → Prop} {job : Snapshot} (known : own job.uuid)
    {action : JobAction} {name : String} {args : List (String × String)}
    (worded : Worded own { name, args }) {call : Call}
    (mem : call ∈ callsOf (.ok (jobPlan action name job args))) : Worded own call.request := by
  obtain rfl := List.mem_singleton.mp mem
  exact worded.job known

theorem worded_of_mem_commandsOf {own : String → Prop} {b : Board}
    (listed : ∀ job, b.selectedJob? = some job → own job.uuid) {order : Order} {call : Call}
    (mem : call ∈ commandsOf b order) : Worded own call.request := by
  unfold commandsOf Order.plan at mem
  cases order with
  | start type noStorage dryRun =>
    obtain ⟨job, selected, mem⟩ := mem_callsOf_withSelected mem
    split at mem
    · cases mem
    · obtain rfl := List.mem_singleton.mp mem
      exact Worded.startErrand (listed job selected) type noStorage dryRun
  | startWithPassword type noStorage dryRun password =>
    obtain ⟨job, selected, mem⟩ := mem_callsOf_withSelected mem
    obtain rfl | mem := List.mem_cons.mp mem
    · exact Worded.passwordErrand (listed job selected) password
    · obtain rfl := List.mem_singleton.mp mem
      exact Worded.startErrand (listed job selected) type noStorage dryRun
  | abort | reset | unloadVolume =>
    obtain ⟨job, selected, mem⟩ := mem_callsOf_withSelected mem
    exact worded_jobPlan (listed job selected) (Worded.alone (by decide)) mem
  | loadVolume number =>
    obtain ⟨job, selected, mem⟩ := mem_callsOf_withSelected mem
    refine worded_jobPlan (listed job selected) ?_ mem
    exact (Worded.alone (by decide)).arg (by decide) (by decide)
      (bare_of_dark (dark_toString number.toNat))
  | trigger schedule =>
    dsimp only at mem
    split at mem
    · rename_i token
      obtain ⟨job, selected, mem⟩ := mem_callsOf_withSelected mem
      refine worded_jobPlan (listed job selected) ?_ mem
      exact (Worded.alone (by decide)).arg (by decide) (by decide) (bare_of_isToken token)
    · cases mem
  | pause seconds modes =>
    dsimp only at mem
    split at mem
    · cases mem
    · obtain rfl := List.mem_singleton.mp mem
      have masked : Worded own { name := "PAUSE", args := [("modeMask", modes.mask)] } :=
        (Worded.alone (by decide)).arg (by decide) (by decide) (bare_mask modes)
      exact masked.arg (by decide) (by decide) (bare_of_dark (dark_toString seconds.toNat))
  | toggle =>
    dsimp only at mem
    split at mem <;>
      · obtain rfl := List.mem_singleton.mp mem
        exact Worded.alone (by decide)

/-! ## Scripts -/

/-- In the states of `I`, whatever is selected is from `own`, and polling does not lead out of them. -/
structure Owning (own : String → Prop) (I : Poll → Prop) : Prop where
  stays : ∀ {p} stride, I p → I (p.stride stride)
  selected : ∀ {p uuid}, I p → p.board.selected = some uuid → own uuid
  listed : ∀ {p job}, I p → p.board.selectedJob? = some job → own job.uuid

theorem selected_of_about {p : Poll} {kind : Kind} {flight : Flight} {uuid : String}
    (first : p.firstCall kind = .waiting flight)
    (about : flight = .jobStatus uuid ∨ flight = .schedules uuid) :
    p.board.selected = some uuid := by
  rcases about with rfl | rfl <;>
    · obtain rfl := Poll.kind_of_firstCall first
      simp only [Poll.firstCall, Flight.kind] at first
      split at first
      · cases first
        assumption
      · cases first

namespace Owning

variable {own : String → Prop} {I : Poll → Prop} (owning : Owning own I)
include owning

theorem asks_refresh (kind : Kind) :
    (Polling.refresh kind).Asks I fun call => Worded own call.request := by
  intro p holds
  have begun := owning.stays (.begin kind) holds
  rw [Poll.stride] at begun
  rw [refresh_apply]
  rcases begins : p.begin? kind with ⟨progress, q⟩
  rw [begins] at begun
  cases progress with
  | ended result => exact begun
  | waiting flight =>
    obtain ⟨first, _, rfl⟩ := Poll.begin?_waiting begins
    have known : ∀ uuid, (flight = .jobStatus uuid ∨ flight = .schedules uuid) → own uuid :=
      fun uuid about => owning.selected holds (selected_of_about first about)
    dsimp only
    rw [land_apply]
    refine ⟨Worded.flight known, begun, fun answer p holds => ?_⟩
    have received := owning.stays (.receive flight answer) holds
    rw [Poll.stride] at received
    change (landed (p.receive flight answer)).Asks I _
    rcases receives : p.receive flight answer with ⟨progress, q⟩
    rw [receives] at received
    cases progress with
    | ended result => exact received
    | waiting uuid =>
      have status := flight_of_waiting (congrArg Prod.fst receives)
      exact ⟨(Worded.alone (by decide)).job (known uuid (.inl status)), received,
        fun answer p holds => owning.stays (.receiveDetail uuid answer) holds⟩

theorem asks_cycle (withJobList : Bool) :
    (Polling.cycle withJobList).Asks I fun call => Worded own call.request := by
  have rest : stateAndInfo.Asks I fun call => Worded own call.request := by
    refine (owning.asks_refresh .runState).bind fun result => ?_
    cases result with
    | error stop => exact Script.asks_pure _
    | ok outcome => exact (owning.asks_refresh .jobInfo).bind fun _ => Script.asks_pure _
  intro p holds
  rw [cycle_apply]
  split
  · exact holds
  split
  · exact (owning.asks_refresh .jobList p holds).bind fun _ => rest
  · exact rest p holds

theorem asks_fetch : fetch.Asks I fun call => Worded own call.request :=
  (owning.asks_refresh .schedules).bind fun _ =>
    (owning.asks_refresh .jobInfo).bind fun _ => Script.asks_pure ()

omit owning in
theorem asks_sendAll {errands : List Errand}
    (worded : ∀ call ∈ errands.map Errand.call, Worded own call.request) :
    (sendAll errands).Asks I fun call => Worded own call.request := by
  induction errands with
  | nil => exact Script.asks_pure _
  | cons errand rest ih =>
    obtain ⟨first, others⟩ := List.forall_mem_cons.mp worded
    intro p holds
    rw [sendAll_cons]
    refine ⟨first, holds, fun answer p holds => ?_⟩
    dsimp only
    cases answer.merged with
    | error cause => exact holds
    | ok row => exact ih others p holds

theorem asks_carryOut (order : Order) :
    order.carryOut.Asks I fun call => Worded own call.request := by
  intro p holds
  have worded : ∀ call ∈ callsOf (order.plan p.board), Worded own call.request :=
    fun call mem => worded_of_mem_commandsOf (fun _ => owning.listed holds) mem
  rw [carryOut_apply]
  cases planned : order.plan p.board with
  | error refusal => exact holds
  | ok plan =>
    rw [planned] at worded
    dsimp only
    split
    · exact holds
    refine (asks_sendAll worded p holds).bind fun result => ?_
    cases result with
    | error refusal => exact Script.asks_pure _
    | ok done => exact (owning.asks_cycle true).bind fun _ => Script.asks_pure _

theorem moved {p q : Poll} (moved : p.Moved q) (holds : I p) : I q :=
  moved.kept (fun _ stride holds => owning.stays stride holds) holds

end Owning

/-! ## Operations -/

theorem owning_selected (selected : Option String) :
    Owning (fun uuid => selected = some uuid) fun p =>
      p.board.selected = selected ∧ p.board.roster.Consistent where
  stays := by
    rintro p stride ⟨rfl, consistent⟩
    have strode := Poll.strode_stride p stride
    exact ⟨strode.selected, strode.consistent consistent⟩
  selected := fun holds same => holds.1.symm.trans same
  listed := fun holds job => holds.1.symm.trans (selected_of_selectedJob? job holds.2)

namespace Operation

theorem worded_script {own : String → Prop} {I : Board → Prop} (owning : Owning own fun p => I p.board)
    (selecting : ∀ b uuid, I b → I (b.select uuid).2) (op : Operation) :
    op.script.Asks (fun c => I c.board) fun call => Worded own call.request := by
  refine asks_script (fun _ => asks_polling (owning.asks_cycle _))
    (fun _ => asks_polling (owning.asks_carryOut _)) (fun same => (congrArg I same).mpr)
    fun uuid _ c holds => ?_
  have settles {c : Console} (holds : I c.board) : I c.pump.2.board := by
    rw [c.board_pump]
    exact holds
  have chosen : I (c.selecting uuid).board := selecting c.board uuid holds
  rw [select_apply]
  split
  · exact holds
  split
  · exact (asks_polling owning.asks_fetch _ chosen).bind fun _ _ => settles
  · exact settles chosen

theorem consistent_perform {c : Console} (consistent : c.board.roster.Consistent) (op : Operation)
    (server : Responses) : (op.perform server c).1.board.roster.Consistent := by
  have owning : Owning (fun _ => True) fun p => p.board.roster.Consistent :=
    ⟨fun stride holds => (Poll.strode_stride _ stride).consistent holds, fun _ _ => trivial,
      fun _ _ => trivial⟩
  have asks := worded_script (I := fun b => b.roster.Consistent) owning
    (fun b uuid holds => b.roster_select uuid ▸ holds) op c consistent
  exact asks.keeps.runWith
    (fun call sent c holds => owning.moved (.strides c.poll (server sent call).meanwhile) holds) []

theorem consistent_performAll {c : Console} (consistent : c.board.roster.Consistent)
    (operations : List (Operation × Responses)) :
    (c.performAll operations).board.roster.Consistent := by
  induction operations generalizing c with
  | nil => exact consistent
  | cons operation rest ih => exact ih (consistent_perform consistent operation.1 operation.2)

section

variable {c : Console} (consistent : c.board.roster.Consistent) (server : Responses) {call : Call}

include consistent

theorem owned_select {uuid : Option String}
    (sent : call ∈ ((select uuid).perform server c).2) :
    Worded (fun chosen => uuid = some chosen) call.request := by
  have owning := owning_selected uuid
  rw [perform_select] at sent
  split at sent
  · cases sent
  split at sent
  · have selected : (c.selecting uuid).board.selected = uuid :=
      Board.selected_select c.poll.board uuid
    have listed : (c.selecting uuid).board.roster.Consistent := by
      have same : (c.selecting uuid).board.roster = c.board.roster := Board.roster_select _ uuid
      exact same ▸ consistent
    exact (owning.asks_fetch (c.selecting uuid).poll ⟨selected, listed⟩).calls
      (fun call sent p holds => owning.moved (.strides p (server sent call).meanwhile) holds)
      (fun _ _ _ => rfl) (List.forall_mem_nil _) call sent
  · cases sent

theorem owned_other {op : Operation} (other : ∀ uuid, op ≠ .select uuid)
    (sent : call ∈ (op.perform server c).2) :
    Worded (fun uuid => c.board.selected = some uuid) call.request := by
  have owning := owning_selected c.board.selected
  have aside {a b : Console} (same : b.board = a.board)
      (holds : a.board.selected = c.board.selected ∧ a.board.roster.Consistent) :
      b.board.selected = c.board.selected ∧ b.board.roster.Consistent := by
    rw [same]
    exact holds
  have asks : op.script.Asks
      (fun d => d.board.selected = c.board.selected ∧ d.board.roster.Consistent) fun call =>
        Worded (fun uuid => c.board.selected = some uuid) call.request :=
    asks_script (fun _ => asks_polling (owning.asks_cycle _))
      (fun _ => asks_polling (owning.asks_carryOut _)) aside
      (fun uuid same => absurd same (other uuid))
  exact (asks c ⟨rfl, consistent⟩).calls
    (fun call sent c holds => owning.moved (.strides c.poll (server sent call).meanwhile) holds)
    (fun _ _ _ => rfl) (List.forall_mem_nil _) call sent

theorem owned_perform (op : Operation) (sent : call ∈ (op.perform server c).2) :
    Worded (fun uuid => (op.choice c).board.selected = some uuid) call.request := by
  by_cases choice : ∃ uuid, op = .select uuid
  · obtain ⟨uuid, rfl⟩ := choice
    have selected : (c.selecting uuid).board.selected = uuid :=
      Board.selected_select c.poll.board uuid
    rw [choice, selected]
    exact owned_select consistent server sent
  · have other : ∀ uuid, op ≠ .select uuid := fun uuid same => choice ⟨uuid, same⟩
    have stays : op.choice c = c := by
      cases op with
      | select uuid => exact absurd rfl (other uuid)
      | _ => rfl
    rw [stays]
    exact owned_other consistent server other sent

end

/-- Every line that an operation sends is intact exactly if the UUIDs of jobs on it have neither a
space nor a line feed, whatever is done to the console while the operation waits for answers. In a run
of operations such a UUID is that of the job that is selected when the operation makes its calls. -/
theorem lines_intact_unless_job_uuid (op : Operation) :
    (∀ c, (op.script c).Asks (fun _ => True) fun call =>
      ∀ id, call.request.Intact id ↔
        ∀ uuid, ("jobUUID", uuid) ∈ call.request.args → Bare uuid) ∧
    ∀ (settings : Settings) (key : SortKey) (operations : List (Operation × Responses))
      (server : Responses),
      let c := (Console.new settings key).performAll operations
      ∀ call ∈ (op.perform server c).2, ∀ uuid, ("jobUUID", uuid) ∈ call.request.args →
        (op.choice c).board.selected = some uuid := by
  constructor
  · intro c
    have owning : Owning (fun _ => True) fun _ => True :=
      ⟨fun _ _ => trivial, fun _ _ => trivial, fun _ _ => trivial⟩
    have asks := worded_script (I := fun _ => True) owning (fun _ _ => id) op c trivial
    exact asks.imp fun call worded id => worded.intact_iff id
  · intro settings key operations server c call sent uuid mem
    have consistent : c.board.roster.Consistent :=
      consistent_performAll (Roster.consistent_of_handles_eq_nil rfl rfl) operations
    exact (owned_perform consistent server op sent).owned mem

def quoting : Responses := fun _ call =>
  if call.request.name = "JOB_LIST" then
    match Fields.parse "jobUUID='a force=yes' name=alpha state=waiting" with
    | .ok row => { answer := { rows := [row] } }
    | .error fault => { answer := .failed (.communication fault) }
  else { answer := {} }

def quotedConsole : Console :=
  (Console.new {} .name).performAll
    [(.refresh, quoting), (.select (some "a force=yes"), quoting)]

/-- The UUID of a listed job brings another argument onto the lines about that job. -/
theorem quoted_uuid_splits :
    let sent := ((carryOut .reset).perform quoting quotedConsole).2
    quotedConsole.board.selectedJob?.map Snapshot.uuid = some "a force=yes" ∧
      (sent.head?.map fun call => call.request.line 1) =
        some "1 JOB_RESET jobUUID=a force=yes\n" ∧
      ∃ call ∈ sent, ¬call.request.Intact 1 := by
  refine ⟨by decide +kernel, by decide +kernel, ?_⟩
  have spaced : ∃ call ∈ ((carryOut .reset).perform quoting quotedConsole).2,
      ∃ arg ∈ call.request.args, ¬Bare arg.2 := by decide +kernel
  obtain ⟨call, sent, arg, mem, broken⟩ := spaced
  exact ⟨call, sent, fun intact => broken (intact.bare 1 arg mem)⟩

end Operation

end BackupConsole
