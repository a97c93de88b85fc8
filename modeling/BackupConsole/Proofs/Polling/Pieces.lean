import BackupConsole.Proofs.Polling.Cycle
import BackupConsole.Proofs.Script.Pieces

set_option autoImplicit false

namespace BackupConsole

open Wire Step

namespace Polling

def landed : Progress String × Poll → Step Poll Result
  | (.ended result, p) => .done result p
  | (.waiting uuid, p) =>
    .ask (detailCall uuid) p fun answer p =>
      .done (p.receiveDetail uuid answer).1 (p.receiveDetail uuid answer).2

theorem state_landed (landing : Progress String × Poll) : (landed landing).state = landing.2 := by
  obtain ⟨progress, p⟩ := landing
  cases progress <;> rfl

theorem land_apply (flight : Flight) (p : Poll) :
    land flight p =
      .ask (pollCall flight.request) p fun answer p => landed (p.receive flight answer) := by
  rw [land, Script.bind_apply, Script.ask, Step.bind]
  congr 1
  funext answer p
  rw [Step.bind, Script.bind_apply, Script.change, Step.bind]
  obtain ⟨progress, q⟩ := p.receive flight answer
  cases progress <;> rfl

theorem refresh_apply (kind : Kind) (p : Poll) :
    refresh kind p =
      match p.begin? kind with
      | (.ended result, p) => .done result p
      | (.waiting flight, p) => land flight p := by
  rw [refresh, Script.bind_apply, Script.change, Step.bind]
  obtain ⟨progress, q⟩ := p.begin? kind
  cases progress <;> rfl

theorem refresh_of_firstCall {p : Poll} {kind : Kind} {flight : Flight}
    (first : p.firstCall kind = .waiting flight) :
    refresh kind p =
      if p.isBusy kind then .done (.ok .coalesced) p else land flight (p.occupy kind) := by
  rw [refresh_apply, Poll.begin?, first]
  cases p.isBusy kind <;> rfl

def stateAndInfo : Script Poll (Except Stop Unit) := do
  match ← refresh .runState with
  | .error stop => return .error stop
  | .ok _ =>
    let _ ← refresh .jobInfo
    return .ok ()

theorem cycle_apply (withJobList : Bool) (p : Poll) :
    cycle withJobList p =
      if p.terminated then .done (.error .terminated) p
      else if withJobList then (refresh .jobList p).bind fun _ => stateAndInfo
      else stateAndInfo p := by
  rw [cycle, Script.bind_apply, Script.get, Step.bind]
  cases p.terminated <;> cases withJobList <;> rfl

namespace Poll

variable {p q : Poll} {kind : Kind}

theorem begin?_ended {result : Result} (ended : p.begin? kind = (.ended result, q)) : q = p := by
  unfold begin? at ended
  split at ended
  · exact (Prod.mk.inj ended).2.symm
  · split at ended
    · exact (Prod.mk.inj ended).2.symm
    · cases (Prod.mk.inj ended).1

theorem begin?_waiting {flight : Flight} (waiting : p.begin? kind = (.waiting flight, q)) :
    p.firstCall kind = .waiting flight ∧ p.isBusy kind = false ∧ q = p.occupy kind := by
  unfold begin? at waiting
  split at waiting
  · cases (Prod.mk.inj waiting).1
  · rename_i first
    split at waiting
    · cases (Prod.mk.inj waiting).1
    · rename_i free
      obtain ⟨same, rfl⟩ := Prod.mk.inj waiting
      cases same
      exact ⟨first, Bool.eq_false_iff.mpr free, rfl⟩

theorem kind_of_firstCall {flight : Flight} (first : p.firstCall kind = .waiting flight) :
    flight.kind = kind := by
  unfold firstCall at first
  cases kind with
  | jobList =>
    cases first
    rfl
  | runState =>
    dsimp only at first
    split at first
    · cases first
    · cases first
      rfl
  | jobInfo =>
    dsimp only at first
    split at first
    · cases first
      rfl
    · cases first
  | schedules =>
    dsimp only at first
    split at first
    · cases first
      rfl
    · cases first

end Poll

theorem own_of_receiveStatus {p q : Poll} {uuid other : String} {answer : Answer}
    (received : p.receiveStatus uuid answer = (.waiting other, q)) : other = uuid := by
  rw [Poll.receiveStatus_eq] at received
  split at received
  · cases (Prod.mk.inj received).1
    rfl
  · cases (Prod.mk.inj received).1

theorem flight_of_waiting {p : Poll} {flight : Flight} {answer : Answer} {uuid : String}
    (waits : (p.receive flight answer).1 = .waiting uuid) : flight = .jobStatus uuid := by
  cases flight with
  | jobList | runState | schedules chosen => cases waits
  | jobStatus chosen =>
    rw [Poll.receive] at waits
    rcases received : p.receiveStatus chosen answer with ⟨progress, q⟩
    rw [received] at waits
    cases progress with
    | ended result => cases waits
    | waiting other =>
      cases waits
      rw [own_of_receiveStatus received]

/-- What holds of its four parts holds of every piece of a refresh. -/
theorem pieces_refresh {R : Cue → Poll → Step Poll Result → Prop} {kind : Kind}
    (ended : ∀ {p result}, p.begin? kind = (.ended result, p) → R none p (.done result p))
    (begun : ∀ {p flight}, p.firstCall kind = .waiting flight → p.isBusy kind = false →
      R none p (land flight (p.occupy kind)))
    (received : ∀ {p flight} answer, flight.kind = kind →
      R (some (pollCall flight.request, answer)) p (landed (p.receive flight answer)))
    (detailed : ∀ {p} uuid answer, kind = .jobInfo →
      R (some (detailCall uuid, answer)) p
        (.done (p.receiveDetail uuid answer).1 (p.receiveDetail uuid answer).2))
    (p : Poll) : Pieces R none p (refresh kind p) := by
  rw [refresh_apply]
  rcases begins : p.begin? kind with ⟨progress, q⟩
  cases progress with
  | ended result =>
    obtain rfl := Poll.begin?_ended begins
    exact ended begins
  | waiting flight =>
    obtain ⟨first, free, rfl⟩ := Poll.begin?_waiting begins
    have start := begun first free
    have own := Poll.kind_of_firstCall first
    dsimp only
    rw [land_apply] at start ⊢
    refine ⟨start, ?_⟩
    intro answer found
    have lands := received (p := found) answer own
    dsimp only
    rcases receives : found.receive flight answer with ⟨progress, q⟩
    rw [receives] at lands
    cases progress with
    | ended result => exact lands
    | waiting uuid =>
      refine ⟨lands, fun answer found => detailed uuid answer ?_⟩
      cases flight with
      | jobStatus other => exact own.symm
      | jobList => cases (Prod.mk.inj receives).1
      | runState => cases (Prod.mk.inj receives).1
      | schedules other => cases (Prod.mk.inj receives).1

end Polling

end BackupConsole
