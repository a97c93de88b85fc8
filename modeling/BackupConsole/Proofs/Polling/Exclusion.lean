import BackupConsole.Proofs.Polling.Orderly
import BackupConsole.Proofs.Polling.Selection

set_option autoImplicit false

namespace BackupConsole

open Wire Step

namespace Polling

/-! ## Moves of a refresh -/

def Underway.flags (u : Underway) : List Kind :=
  match u.stage with
  | .chosen _ => []
  | .awaiting next => flagsOf (some next.call)

namespace Traffic

/-- The kinds of the refreshes that have taken their flag and not ended. -/
def inFlight (t : Traffic) : List Kind := t.underway.flatMap Underway.flags

def result? (t : Traffic) : Move → Option Result
  | .select _ => none
  | .read kind =>
    match t.poll.firstCall kind with
    | .ended result => some result
    | .waiting _ => none
  | .call place =>
    match t.underway[place]? with
    | some ⟨_, .chosen flight⟩ => (proceed flight t.poll).value?
    | _ => none
  | .answer place answer =>
    match t.underway[place]? with
    | some ⟨_, .awaiting next⟩ => (next.resume answer t.poll).value?
    | _ => none

def sent? (t : Traffic) : Move → Option Call
  | .select _ | .read _ => none
  | .call place =>
    match t.underway[place]? with
    | some ⟨_, .chosen flight⟩ => (proceed flight t.poll).call?
    | _ => none
  | .answer place answer =>
    match t.underway[place]? with
    | some ⟨_, .awaiting next⟩ => (next.resume answer t.poll).call?
    | _ => none

/-- One refresh of a kind at a time, and none kept out for longer. -/
structure Regulated (t : Traffic) : Prop where
  alone : t.inFlight.Nodup
  flag : ∀ kind, t.poll.isBusy kind = true ↔ kind ∈ t.inFlight
  entry : ∀ kind, t.result? (.read kind) ≠ some (.ok .coalesced)
  /-- After the entry check a refresh is turned away exactly while another one of its kind is in
  flight, and then it leaves no trace. -/
  turnedAway : ∀ place read flight, t.underway[place]? = some ⟨read, .chosen flight⟩ →
    (t.result? (.call place) = some (.ok .coalesced) ↔ flight.kind ∈ t.inFlight) ∧
    (flight.kind ∈ t.inFlight → t.sent? (.call place) = none ∧
      t.after (.call place) = { t with underway := t.underway.eraseIdx place })
  letThrough : ∀ place read flight, t.underway[place]? = some ⟨read, .chosen flight⟩ →
    flight.kind ∉ t.inFlight →
      t.result? (.call place) = none ∧ t.sent? (.call place) = some (pollCall flight.request) ∧
        (t.after (.call place)).inFlight.Perm (flight.kind :: t.inFlight)
  /-- A refresh that is answered goes on to a call of the same kind, or it ends, whatever it comes to,
  and nothing of its kind is in flight any more. -/
  ending : ∀ place read next, t.underway[place]? = some ⟨read, .awaiting next⟩ →
    ∃ kind, kindOf? next.call = some kind ∧ ∀ answer,
      let after := t.after (.answer place answer)
      match t.result? (.answer place answer) with
      | none =>
        (t.sent? (.answer place answer)).bind kindOf? = some kind ∧ after.inFlight.Perm t.inFlight
      | some result =>
        result ≠ .ok .coalesced ∧ t.inFlight.Perm (kind :: after.inFlight) ∧
          kind ∉ after.inFlight ∧ after.poll.isBusy kind = false

end Traffic

/-! ## Pieces of a refresh of one kind -/

structure Working (kind : Kind) (cue : Cue) (p : Poll) (step : Step Poll Result) : Prop where
  orderly : Orderly [kind] cue p step
  own : ∀ call, step.call? = some call → kindOf? call = some kind
  result : step.value? ≠ some (.ok .coalesced)

theorem ne_coalesced_of_ended {query : Query} {result : Result} (ended : Poll.Ended query result) :
    result ≠ .ok .coalesced := by
  cases ended with
  | done query outcome ran => exact fun same => ran (Except.ok.inj same)
  | lost stop => nofun

theorem pieces_working_land {p : Poll} {flight : Flight} (free : p.isBusy flight.kind = false) :
    Pieces (Working flight.kind) none p (land flight (p.occupy flight.kind)) := by
  have mem := List.mem_singleton_self flight.kind
  have orderly := orderly_land mem free
  rw [land_apply] at orderly ⊢
  refine ⟨⟨orderly, ?_, nofun⟩, fun answer found => ?_⟩
  · rintro call ⟨⟩
    exact kindOf?_request flight
  have orderly := orderly_receive found mem answer
  dsimp only
  obtain ⟨result, ended, lands⟩ | ⟨uuid, rfl, lands⟩ := found.landed_receive flight answer
  · rw [lands] at orderly ⊢
    exact ⟨orderly, nofun, fun same => ne_coalesced_of_ended ended (Option.some.inj same)⟩
  · rw [lands] at orderly ⊢
    refine ⟨⟨orderly, ?_, nofun⟩, fun answer found => ?_⟩
    · rintro call ⟨⟩
      rfl
    · have orderly : Orderly [.jobInfo] _ found _ := orderly_receiveDetail found uuid answer
      obtain ⟨outcome, ran, stored⟩ := found.receiveDetail_eq answer uuid
      dsimp only
      rw [stored] at orderly ⊢
      exact ⟨orderly, nofun, fun same => ran (Except.ok.inj (Option.some.inj same))⟩

theorem firstCall_ne_coalesced (p : Poll) (kind : Kind) :
    p.firstCall kind ≠ .ended (.ok .coalesced) := by
  cases kind with
  | jobList => nofun
  | runState =>
    unfold Poll.firstCall
    cases p.terminated <;> nofun
  | jobInfo | schedules =>
    unfold Poll.firstCall
    cases p.board.selected <;> nofun

/-! ## What a run keeps -/

def Works (next : Waiting Poll Result) : Prop :=
  ∃ kind, kindOf? next.call = some kind ∧ next.Pieces (Working kind)

namespace Traffic

structure Flagged (t : Traffic) : Prop where
  works : ∀ u ∈ t.underway, ∀ next, u.stage = .awaiting next → Works next
  taken : t.poll.busy.Perm t.inFlight
  alone : t.poll.busy.Nodup

variable {t : Traffic} {place : Nat} {u : Underway}

theorem inFlight_perm (here : t.underway[place]? = some u) :
    t.inFlight.Perm (u.flags ++ (t.underway.eraseIdx place).flatMap Underway.flags) := by
  obtain ⟨inside, rfl⟩ := List.getElem?_eq_some_iff.mp here
  exact ((List.getElem_cons_eraseIdx_perm inside).flatMap_right Underway.flags).symm

theorem inFlight_goOn (t : Traffic) (place : Nat) (read : Option String) (step : Step Poll Result) :
    (t.goOn place read step).inFlight.Perm
      (flagsOf step.call? ++ (t.underway.eraseIdx place).flatMap Underway.flags) := by
  have own : (step.waiting?.map fun next => (⟨read, .awaiting next⟩ : Underway)).toList.flatMap
      Underway.flags = flagsOf step.call? := by
    cases step with
    | done value state => rfl
    | ask call state resume => exact List.append_nil _
  rw [inFlight, goOn, List.flatMap_append, own]
  exact List.perm_append_comm

namespace Flagged

variable (flagged : t.Flagged)
include flagged

theorem goOn (here : t.underway[place]? = some u) {cue : Cue} {step : Step Poll Result}
    (own : u.flags = flagsOf (cue.map Prod.fst)) {kinds : List Kind}
    (orderly : Orderly kinds cue t.poll step)
    (works : ∀ next, step.waiting? = some next → Works next) (heard : List (Call × Answer)) :
    Flagged { t.goOn place u.read step with heard } := by
  have before := inFlight_perm here
  rw [own] at before
  have after := t.inFlight_goOn place u.read step
  refine ⟨?_, (orderly.flags _ (flagged.taken.trans before)).trans after.symm,
    orderly.nodup flagged.alone⟩
  intro v mem next stage
  obtain old | new := List.mem_append.mp mem
  · exact flagged.works v (List.mem_of_mem_eraseIdx old) next stage
  · obtain ⟨other, waits, rfl⟩ := Option.map_eq_some_iff.mp (Option.mem_toList.mp new)
    cases stage
    exact works next waits

theorem flag (kind : Kind) : t.poll.isBusy kind = true ↔ kind ∈ t.inFlight := by
  rw [Poll.isBusy_iff_mem]
  exact flagged.taken.mem_iff

theorem called {read : Option String} {flight : Flight}
    (here : t.underway[place]? = some ⟨read, .chosen flight⟩) :
    (t.goOn place read (proceed flight t.poll)).Flagged := by
  unfold proceed
  cases free : t.poll.isBusy flight.kind with
  | true =>
    have idle : Orderly [] none t.poll (.done (.ok .coalesced : Result) t.poll) := .idle _
    exact flagged.goOn here rfl idle nofun t.heard
  | false =>
    have pieces := pieces_working_land free
    refine flagged.goOn here rfl pieces.first.orderly (fun next waits => ?_) t.heard
    rw [land_apply] at pieces waits
    cases waits
    exact ⟨flight.kind, kindOf?_request flight, pieces.2⟩

theorem answered {read : Option String} {next : Waiting Poll Result}
    (here : t.underway[place]? = some ⟨read, .awaiting next⟩) (answer : Answer) :
    (t.after (.answer place answer)).Flagged := by
  obtain ⟨kind, own, pieces⟩ := flagged.works _ (List.mem_of_getElem? here) next rfl
  have piece := pieces answer t.poll
  rw [Traffic.after, here]
  refine flagged.goOn here rfl piece.first.orderly (fun later waits => ?_) _
  exact ⟨kind, piece.first.own later.call (call?_of_waiting waits), piece.waiting waits⟩

theorem after (move : Move) : (t.after move).Flagged := by
  cases move with
  | select uuid => exact ⟨flagged.works, flagged.taken, flagged.alone⟩
  | read kind =>
    unfold Traffic.after Traffic.read
    dsimp only
    split
    · exact flagged
    · refine ⟨?_, ?_, flagged.alone⟩
      · refine List.forall_mem_append.mpr ⟨flagged.works, List.forall_mem_singleton.mpr ?_⟩
        rintro next ⟨⟩
      · rw [inFlight, List.flatMap_append]
        change t.poll.busy.Perm (t.inFlight ++ [])
        rw [List.append_nil]
        exact flagged.taken
  | call place =>
    unfold Traffic.after
    dsimp only
    split
    · exact flagged.called ‹_›
    · exact flagged
  | answer place answer =>
    cases here : t.underway[place]? with
    | none =>
      rw [Traffic.after, here]
      exact flagged
    | some u =>
      obtain ⟨read, stage⟩ := u
      cases stage with
      | chosen flight =>
        rw [Traffic.after, here]
        exact flagged
      | awaiting next => exact flagged.answered here answer

end Flagged

theorem flagged_run (settings : Settings) (moves : List Move) : (run settings moves).Flagged := by
  have start : Flagged { poll := { settings } } := by
    refine ⟨?_, List.Perm.nil, List.nodup_nil⟩
    exact fun _ mem => absurd mem List.not_mem_nil
  unfold run
  generalize ({ poll := { settings } } : Traffic) = t at start
  induction moves generalizing t with
  | nil => exact start
  | cons move moves ih => exact ih _ (start.after move)

namespace Flagged

variable (flagged : t.Flagged)
include flagged

theorem turnedAway_iff {read : Option String} {flight : Flight}
    (here : t.underway[place]? = some ⟨read, .chosen flight⟩) :
    t.result? (.call place) = some (.ok .coalesced) ↔ flight.kind ∈ t.inFlight := by
  rw [← flagged.flag, result?, here]
  dsimp only
  rw [proceed]
  cases t.poll.isBusy flight.kind with
  | true => simp [value?]
  | false =>
    rw [land_apply]
    simp [value?]

theorem traceless {read : Option String} {flight : Flight}
    (here : t.underway[place]? = some ⟨read, .chosen flight⟩) (busy : flight.kind ∈ t.inFlight) :
    t.sent? (.call place) = none ∧
      t.after (.call place) = { t with underway := t.underway.eraseIdx place } := by
  have gives : proceed flight t.poll = .done (.ok .coalesced) t.poll :=
    if_pos ((flagged.flag flight.kind).mpr busy)
  rw [sent?, Traffic.after, here]
  dsimp only
  rw [gives]
  refine ⟨rfl, ?_⟩
  simp [Traffic.goOn, state, waiting?]

theorem asks {read : Option String} {flight : Flight}
    (here : t.underway[place]? = some ⟨read, .chosen flight⟩) (free : flight.kind ∉ t.inFlight) :
    t.result? (.call place) = none ∧ t.sent? (.call place) = some (pollCall flight.request) ∧
      (t.after (.call place)).inFlight.Perm (flight.kind :: t.inFlight) := by
  have lands : proceed flight t.poll = land flight (t.poll.occupy flight.kind) :=
    if_neg fun busy => free ((flagged.flag flight.kind).mp busy)
  have before := inFlight_perm here
  rw [result?, sent?, Traffic.after, here]
  dsimp only
  rw [lands, land_apply]
  refine ⟨rfl, rfl, (t.inFlight_goOn place read _).trans ?_⟩
  change (flagsOf (some (pollCall flight.request)) ++ _).Perm (flight.kind :: t.inFlight)
  rw [flagsOf_of_kind (kindOf?_request flight)]
  exact before.symm.cons flight.kind

theorem ends {read : Option String} {next : Waiting Poll Result}
    (here : t.underway[place]? = some ⟨read, .awaiting next⟩) :
    ∃ kind, kindOf? next.call = some kind ∧ ∀ answer,
      let after := t.after (.answer place answer)
      match t.result? (.answer place answer) with
      | none =>
        (t.sent? (.answer place answer)).bind kindOf? = some kind ∧ after.inFlight.Perm t.inFlight
      | some result =>
        result ≠ .ok .coalesced ∧ t.inFlight.Perm (kind :: after.inFlight) ∧
          kind ∉ after.inFlight ∧ after.poll.isBusy kind = false := by
  obtain ⟨kind, own, pieces⟩ := flagged.works _ (List.mem_of_getElem? here) next rfl
  refine ⟨kind, own, fun answer => ?_⟩
  have piece := (pieces answer t.poll).first
  have later := flagged.answered here answer
  have before : t.inFlight.Perm (kind :: (t.underway.eraseIdx place).flatMap Underway.flags) := by
    have mine : Underway.flags ⟨read, .awaiting next⟩ = [kind] := flagsOf_of_kind own
    have before := inFlight_perm here
    rw [mine] at before
    exact before
  have after : (t.after (.answer place answer)).inFlight.Perm
      (flagsOf (next.resume answer t.poll).call? ++
        (t.underway.eraseIdx place).flatMap Underway.flags) := by
    rw [Traffic.after, here]
    exact t.inFlight_goOn place read _
  dsimp only
  generalize t.after (.answer place answer) = left at later after ⊢
  rw [result?, sent?, here]
  dsimp only
  cases goes : next.resume answer t.poll with
  | ask call state resume =>
    rw [goes] at after piece
    have same := piece.own call rfl
    refine ⟨same, after.trans ?_⟩
    change (flagsOf (some call) ++ _).Perm t.inFlight
    rw [flagsOf_of_kind same]
    exact before.symm
  | done result state =>
    rw [goes] at after piece
    have gone : kind ∉ left.inFlight := by
      have alone := flagged.alone
      rw [flagged.taken.nodup_iff, before.nodup_iff] at alone
      exact fun mem => (List.nodup_cons.mp alone).1 (after.mem_iff.mp mem)
    refine ⟨fun same => piece.result (congrArg some same), before.trans (after.symm.cons kind),
      gone, ?_⟩
    exact Bool.eq_false_iff.mpr fun busy => gone ((later.flag kind).mp busy)

end Flagged

/-- However refreshes of all kinds, whatever they are answered, and selections overlap, the flags keep
one refresh of each kind apart from the next, and nothing else. -/
theorem run_regulated (settings : Settings) (moves : List Move) : (run settings moves).Regulated where
  alone := (flagged_run settings moves).taken.nodup_iff.mp (flagged_run settings moves).alone
  flag := (flagged_run settings moves).flag
  entry := by
    intro kind
    rw [result?]
    split
    · rename_i first
      rintro ⟨⟩
      exact firstCall_ne_coalesced _ kind first
    · nofun
  turnedAway := fun _ _ _ here =>
    ⟨(flagged_run settings moves).turnedAway_iff here, (flagged_run settings moves).traceless here⟩
  letThrough := fun _ _ _ here free => (flagged_run settings moves).asks here free
  ending := fun _ _ _ here => (flagged_run settings moves).ends here

end Traffic

end Polling

end BackupConsole
