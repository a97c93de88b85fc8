import BackupConsole.Proofs.Polling.Answers

/-!
# The selection may change while a refresh is under way

A refresh reads the selection, makes its calls, and stores what the answers tell. Before each of these
steps any number of other refreshes may make theirs, and the selection may change, also back to the
job that was read. What is stored about the selected job has been told by an answer to a call for that
job, received since it was selected last; an answer about another job is dropped.
-/

set_option autoImplicit false

namespace BackupConsole

open Job Wire Step

namespace Polling

def Flight.uuid? : Flight → Option String
  | .jobList | .runState => none
  | .jobStatus uuid | .schedules uuid => some uuid

/-- A refresh after it has read the selection. It gives way to one of its kind that is under way. -/
def proceed (flight : Flight) : Script Poll Result := fun p =>
  if p.isBusy flight.kind then .done (.ok .coalesced) p else land flight (p.occupy flight.kind)

theorem refresh_eq_proceed (kind : Kind) (p : Poll) :
    refresh kind p =
      match p.firstCall kind with
      | .ended result => .done result p
      | .waiting flight => proceed flight p := by
  cases first : p.firstCall kind with
  | ended result => rw [refresh_apply, Poll.begin?, first]
  | waiting flight =>
    obtain rfl := Poll.kind_of_firstCall first
    exact refresh_of_firstCall first

/-! ## Refreshes and selections in any order -/

inductive Stage where
  | chosen (flight : Flight)
  | awaiting (waiting : Waiting Poll Result)

structure Underway where
  read : Option String
  stage : Stage

/-- Polling with its refreshes, and what has been heard since the selection changed last. -/
structure Traffic where
  poll : Poll
  underway : List Underway := []
  heard : List (Call × Answer) := []

inductive Traffic.Move where
  | select (uuid : Option String)
  | read (kind : Kind)
  | call (place : Nat)
  | answer (place : Nat) (answer : Answer)

namespace Traffic

def select (t : Traffic) (uuid : Option String) : Traffic :=
  { t with
    poll := { t.poll with board := (t.poll.board.select uuid).2 }
    heard := if (t.poll.board.select uuid).1 then [] else t.heard }

def read (t : Traffic) (kind : Kind) : Traffic :=
  match t.poll.firstCall kind with
  | .ended _ => t
  | .waiting flight =>
    { t with underway := t.underway ++ [⟨t.poll.board.selected, .chosen flight⟩] }

def goOn (t : Traffic) (place : Nat) (read : Option String) (step : Step Poll Result) : Traffic :=
  { t with
    poll := step.state
    underway :=
      t.underway.eraseIdx place ++ (step.waiting?.map fun next => ⟨read, .awaiting next⟩).toList }

def after (t : Traffic) : Move → Traffic
  | .select uuid => t.select uuid
  | .read kind => t.read kind
  | .call place =>
    match t.underway[place]? with
    | some ⟨read, .chosen flight⟩ => t.goOn place read (proceed flight t.poll)
    | _ => t
  | .answer place answer =>
    match t.underway[place]? with
    | some ⟨read, .awaiting next⟩ =>
      { t.goOn place read (next.resume answer t.poll) with
        heard := t.heard ++ [(next.call, answer)] }
    | _ => t

def run (settings : Settings) (moves : List Move) : Traffic :=
  moves.foldl after { poll := { settings } }

end Traffic

/-- What is stored of the selected job was told since it was selected. -/
structure Current (b : Board) (heard : List (Call × Answer)) : Prop where
  detail : ∀ detail, b.detail = some detail → b.selected = some detail.uuid ∧
    ∃ answer row, (detailCall detail.uuid, answer) ∈ heard ∧ answer.merged = .ok row ∧
      detail = Detail.ofFields detail.uuid row
  schedules : b.schedules ≠ [] → ∃ uuid answer, b.selected = some uuid ∧
    (schedulesCall uuid, answer) ∈ heard ∧ answer.outcome = .ok () ∧
      b.schedules = Poll.schedulesOf answer.rows
  unselected : b.selected = none → b.detail = none ∧ b.schedules = []

def Event.aboutSelected : Event → Bool
  | .jobInfo _ | .schedules _ => true
  | _ => false

/-- From `p` to `q` nothing about the selected job is stored or announced. -/
structure Untouched (p q : Poll) : Prop where
  selected : q.board.selected = p.board.selected
  detail : q.board.detail = p.board.detail
  schedules : q.board.schedules = p.board.schedules
  events : ∃ news, q.events = p.events ++ news ∧ ∀ event ∈ news, event.aboutSelected = false

inductive Touched (read : Option String) (cue : Cue) (p q : Poll) : Prop where
  | untouched (same : Untouched p q)
  | detail (uuid : String) (own : read = some uuid) (selected : p.board.selected = some uuid)
      (answer : Answer) (asked : cue = some (detailCall uuid, answer)) (row : Fields)
      (told : answer.merged = .ok row)
      (stored : q.board = { p.board with detail := some (Detail.ofFields uuid row) })
  | schedules (uuid : String) (own : read = some uuid) (selected : p.board.selected = some uuid)
      (answer : Answer) (asked : cue = some (schedulesCall uuid, answer))
      (told : answer.outcome = .ok ())
      (stored : q.board = { p.board with schedules := Poll.schedulesOf answer.rows })

/-! ## What a step does -/

namespace Untouched

variable {p q r : Poll}

theorem refl (p : Poll) : Untouched p p :=
  ⟨rfl, rfl, rfl, [], (List.append_nil _).symm, fun _ mem => absurd mem List.not_mem_nil⟩

theorem busy (same : Untouched p q) (busy : List Kind) : Untouched p { q with busy } :=
  ⟨same.selected, same.detail, same.schedules, same.events⟩

end Untouched

theorem Touched.busy {read : Option String} {cue : Cue} {p q : Poll} (touched : Touched read cue p q)
    (busy : List Kind) : Touched read cue p { q with busy } := by
  cases touched with
  | untouched same => exact .untouched (same.busy busy)
  | detail uuid own selected answer asked row told stored =>
    exact .detail uuid own selected answer asked row told stored
  | schedules uuid own selected answer asked told stored =>
    exact .schedules uuid own selected answer asked told stored

theorem Touched.untouched_of_ne {read : Option String} {cue : Cue} {p q : Poll}
    (touched : Touched read cue p q) (other : read ≠ p.board.selected) : Untouched p q := by
  cases touched with
  | untouched same => exact same
  | detail uuid own selected => exact absurd (own.trans selected.symm) other
  | schedules uuid own selected => exact absurd (own.trans selected.symm) other

def Query.own? : Query → Option String
  | .list | .state | .status _ => none
  | .detail uuid | .schedules uuid => some uuid

theorem untouched_filed (p : Poll) (answer : Answer) {query : Query} (general : query.own? = none) :
    Untouched p (p.filed answer query) := by
  have quiet : ∀ event ∈ p.news answer query, event.aboutSelected = false := fun event mem => by
    cases p.announced_of_mem_news answer mem with
    | jobs | runState _ | fatal _ => rfl
    | jobInfo _ _ | schedules _ _ => cases general
  cases query with
  | detail _ | schedules _ => cases general
  | list | state | status _ => exact ⟨rfl, rfl, rfl, _, rfl, quiet⟩

theorem touched_filed {read : Option String} (p : Poll) (answer : Answer) {query : Query}
    (own : ∀ uuid, query.own? = some uuid → read = some uuid) :
    Touched read (some (query.call, answer)) p (p.filed answer query) := by
  cases query with
  | list | state | status _ => exact .untouched (untouched_filed p answer rfl)
  | detail uuid =>
    cases told : toldDetail? p.board.selected uuid answer with
    | none =>
      refine .untouched ⟨rfl, ?_, rfl, p.news answer (.detail uuid), rfl, ?_⟩
      · simp only [Poll.filed, Board.filed, told, Option.none_or]
      · simp [Poll.news, told]
    | some detail =>
      obtain ⟨selected, row, merged, rfl⟩ := toldDetail?_eq_some told
      refine .detail uuid (own uuid rfl) selected answer rfl row merged ?_
      simp only [Poll.filed, Board.filed, told, Option.some_or]
  | schedules uuid =>
    cases told : toldSchedules? p.board.selected uuid answer with
    | none =>
      refine .untouched ⟨rfl, rfl, ?_, p.news answer (.schedules uuid), rfl, ?_⟩
      · simp only [Poll.filed, Board.filed, told, Option.getD_none]
      · simp [Poll.news, told]
    | some schedules =>
      obtain ⟨selected, outcome, rfl⟩ := toldSchedules?_eq_some told
      refine .schedules uuid (own uuid rfl) selected answer rfl outcome ?_
      simp only [Poll.filed, Board.filed, told, Option.getD_some]

/-- A refresh stores and announces only what an answer tells about the job that it has read, and only
while that job is selected. -/
theorem pieces_proceed {read : Option String} {flight : Flight}
    (own : ∀ uuid, flight.uuid? = some uuid → read = some uuid) (p : Poll) :
    Pieces (fun cue found step => Touched read cue found step.state) none p (proceed flight p) := by
  unfold proceed
  split
  · exact .untouched (.refl p)
  rw [land_apply]
  refine ⟨.untouched ((Untouched.refl p).busy _), fun answer found => ?_⟩
  have first : Touched read (some (pollCall flight.request, answer)) found
      (found.filed answer flight.query) := by
    rw [← flight.call_query]
    refine touched_filed found answer fun uuid about => own uuid ?_
    cases flight <;> cases about
    rfl
  dsimp only
  obtain ⟨result, _, lands⟩ | ⟨uuid, rfl, lands⟩ := found.landed_receive flight answer
  · rw [lands]
    exact first.busy _
  · rw [lands]
    refine ⟨first, fun answer found => ?_⟩
    dsimp only
    rw [Poll.receiveDetail_snd]
    have mine : ∀ other, (Query.detail uuid).own? = some other → read = some other := by
      rintro other ⟨⟩
      exact own uuid rfl
    exact (touched_filed found answer mine).busy _

/-! ## What a run keeps -/

theorem current_of_empty {b : Board} (detail : b.detail = none) (schedules : b.schedules = [])
    (heard : List (Call × Answer)) : Current b heard := by
  refine ⟨fun _ stored => ?_, fun some => absurd schedules some, fun _ => ⟨detail, schedules⟩⟩
  rw [detail] at stored
  cases stored

theorem current_select {b : Board} {heard : List (Call × Answer)} (current : Current b heard)
    (uuid : Option String) :
    Current (b.select uuid).2 (if (b.select uuid).1 then [] else heard) := by
  unfold Board.select
  split
  · exact current
  · exact current_of_empty rfl rfl []

theorem Current.mono {b : Board} {heard more : List (Call × Answer)} (current : Current b heard)
    (subset : heard ⊆ more) : Current b more := by
  refine ⟨fun detail stored => ?_, fun some => ?_, current.unselected⟩
  · obtain ⟨own, answer, row, told, rest⟩ := current.detail detail stored
    exact ⟨own, answer, row, subset told, rest⟩
  · obtain ⟨uuid, answer, own, told, rest⟩ := current.schedules some
    exact ⟨uuid, answer, own, subset told, rest⟩

theorem Current.untouched {p q : Poll} {heard : List (Call × Answer)}
    (current : Current p.board heard) (same : Untouched p q) : Current q.board heard := by
  obtain ⟨selected, detail, schedules, _⟩ := same
  refine ⟨?_, ?_, ?_⟩
  · rw [selected, detail]
    exact current.detail
  · rw [selected, schedules]
    exact current.schedules
  · rw [selected, detail, schedules]
    exact current.unselected

theorem Current.touched {p q : Poll} {heard : List (Call × Answer)} {read : Option String}
    {cue : Cue} (current : Current p.board heard) (touched : Touched read cue p q)
    (noted : ∀ exchange, cue = some exchange → exchange ∈ heard) : Current q.board heard := by
  cases touched with
  | untouched same => exact current.untouched same
  | detail uuid own selected answer asked row told stored =>
    rw [stored]
    refine ⟨?_, current.schedules, fun none => ?_⟩
    · rintro detail ⟨⟩
      exact ⟨selected, answer, row, noted _ asked, told, rfl⟩
    · cases selected.symm.trans none
  | schedules uuid own selected answer asked told stored =>
    rw [stored]
    refine ⟨current.detail, fun _ => ?_, fun none => ?_⟩
    · exact ⟨uuid, answer, selected, noted _ asked, told, rfl⟩
    · cases selected.symm.trans none

namespace Traffic

inductive Faithful (read : Option String) : Stage → Prop where
  | chosen {flight : Flight} (own : ∀ uuid, flight.uuid? = some uuid → read = some uuid) :
      Faithful read (.chosen flight)
  | awaiting {next : Waiting Poll Result}
      (pieces : next.Pieces fun cue found step => Touched read cue found step.state) :
      Faithful read (.awaiting next)

structure Kept (t : Traffic) : Prop where
  faithful : ∀ u ∈ t.underway, Faithful u.read u.stage
  current : Current t.poll.board t.heard

variable {t : Traffic}

theorem own_of_firstCall {p : Poll} {kind : Kind} {flight : Flight}
    (first : p.firstCall kind = .waiting flight) :
    ∀ uuid, flight.uuid? = some uuid → p.board.selected = some uuid := by
  intro uuid own
  cases kind with
  | jobList =>
    cases first
    cases own
  | runState =>
    simp only [Poll.firstCall] at first
    split at first <;> cases first
    cases own
  | jobInfo | schedules =>
    simp only [Poll.firstCall] at first
    split at first <;> cases first
    rename_i selected
    rw [selected]
    exact own

theorem Kept.read (kept : t.Kept) (kind : Kind) : (t.read kind).Kept := by
  unfold Traffic.read
  split
  · exact kept
  · rename_i flight first
    refine ⟨?_, kept.current⟩
    refine List.forall_mem_append.mpr ⟨kept.faithful, List.forall_mem_singleton.mpr ?_⟩
    exact .chosen (own_of_firstCall first)

theorem Kept.goOn (kept : t.Kept) (place : Nat) {read : Option String} {cue : Cue}
    {step : Step Poll Result}
    (pieces : Pieces (fun cue found step => Touched read cue found step.state) cue t.poll step)
    {heard : List (Call × Answer)} (subset : t.heard ⊆ heard)
    (noted : ∀ exchange, cue = some exchange → exchange ∈ heard) :
    Kept { t.goOn place read step with heard } := by
  refine ⟨?_, (kept.current.mono subset).touched pieces.first noted⟩
  refine List.forall_mem_append.mpr ⟨fun u mem => kept.faithful u (List.mem_of_mem_eraseIdx mem), ?_⟩
  intro u mem
  obtain ⟨next, waits, rfl⟩ := Option.map_eq_some_iff.mp (Option.mem_toList.mp mem)
  exact .awaiting (pieces.waiting waits)

theorem Kept.after (kept : t.Kept) (move : Move) : (t.after move).Kept := by
  cases move with
  | select uuid => exact ⟨kept.faithful, current_select kept.current uuid⟩
  | read kind => exact kept.read kind
  | call place =>
    unfold Traffic.after
    dsimp only
    split
    · rename_i read flight here
      have faithful := kept.faithful _ (List.mem_of_getElem? here)
      cases faithful with
      | chosen own =>
        exact kept.goOn place (pieces_proceed own t.poll) (List.Subset.refl _) fun _ none => nomatch none
    · exact kept
  | answer place answer =>
    unfold Traffic.after
    dsimp only
    split
    · rename_i read next here
      have faithful := kept.faithful _ (List.mem_of_getElem? here)
      cases faithful with
      | awaiting pieces =>
        refine kept.goOn place (pieces answer t.poll) (List.subset_append_left ..) ?_
        rintro exchange ⟨⟩
        exact List.mem_append_right _ (List.mem_singleton.mpr rfl)
    · exact kept

theorem kept_run (settings : Settings) (moves : List Move) : (run settings moves).Kept := by
  have start : Kept { poll := { settings } } :=
    ⟨fun _ mem => absurd mem List.not_mem_nil, current_of_empty rfl rfl []⟩
  unfold run
  generalize ({ poll := { settings } } : Traffic) = t at start
  induction moves generalizing t with
  | nil => exact start
  | cons move moves ih => exact ih _ (start.after move)

def IsNext (place : Nat) : Move → Prop
  | .call here | .answer here _ => here = place
  | _ => False

theorem Kept.untouched (kept : t.Kept) {place : Nat} {u : Underway}
    (here : t.underway[place]? = some u) (other : u.read ≠ t.poll.board.selected) {move : Move}
    (next : IsNext place move) : Untouched t.poll (t.after move).poll := by
  have faithful := kept.faithful u (List.mem_of_getElem? here)
  obtain ⟨read, stage⟩ := u
  cases move with
  | select uuid => exact next.elim
  | read kind => exact next.elim
  | call place =>
    obtain rfl := next
    rw [Traffic.after, here]
    cases faithful with
    | chosen own => exact (pieces_proceed own t.poll).first.untouched_of_ne other
    | awaiting pieces => exact .refl _
  | answer place answer =>
    obtain rfl := next
    rw [Traffic.after, here]
    cases faithful with
    | chosen own => exact .refl _
    | awaiting pieces => exact (pieces answer t.poll).first.untouched_of_ne other

/-- Whatever the order of selections and steps of refreshes, what is stored was told about the selected
job, and a refresh that has read another selection stores and announces nothing of that kind. -/
theorem run_current (settings : Settings) (moves : List Move) :
    let t := run settings moves
    Current t.poll.board t.heard ∧
      ∀ (place : Nat) (u : Underway), t.underway[place]? = some u →
        u.read ≠ t.poll.board.selected → ∀ move, IsNext place move →
          Untouched t.poll (t.after move).poll := by
  intro t
  have kept := kept_run settings moves
  exact ⟨kept.current, fun place u here other move next => kept.untouched here other next⟩

def statusAnswer : Answer := { rows := [.ofPairs [("jobUUID", "a")]] }

/-- While the progress of a is asked for, b is selected and then a again. -/
def returning : List Move :=
  [.select (some "a"), .read .jobInfo, .call 0, .select (some "b"), .answer 0 statusAnswer,
    .select (some "a")]

/-- The answer is stored and announced although the selection has changed since it was read. -/
theorem stored_after_return :
    let t := run {} returning
    t.poll.board.detail = none ∧ t.poll.events = [] ∧
      (t.after (.answer 0 {})).poll.board.detail = some (Detail.ofFields "a" .empty) ∧
      (t.after (.answer 0 {})).poll.events = [.jobInfo "a"] := by
  decide

end Traffic

end Polling

end BackupConsole
