import BackupConsole.Proofs.Console.Agreement
import BackupConsole.Proofs.Console.Stopped

set_option autoImplicit false

namespace BackupConsole

open Job Wire Polling Step

namespace Polling.Poll

/-- Announced progress is that of the selected job, and is stored, unless it is about one of
`others`. -/
structure Telling (others : String → Prop) (p : Poll) : Prop where
  consistent : p.board.roster.Consistent
  own : ∀ detail, p.board.detail = some detail → p.board.selected = some detail.uuid
  stored : ∀ uuid, .jobInfo uuid ∈ p.events →
    others uuid ∨ p.board.selected = some uuid ∧ p.board.detail.isSome = true

namespace Telling

variable {others : String → Prop} {p q : Poll}

theorem busy (telling : p.Telling others) (busy : List Kind) : Telling others { p with busy } :=
  ⟨telling.consistent, telling.own, telling.stored⟩

/-- Progress is stored and announced at once, or dropped. -/
theorem filed (telling : p.Telling others) (answer : Answer) (query : Query) :
    (p.filed answer query).Telling others := by
  have consistent := (strode_filed p answer fun _ : query = .list => rfl).consistent
    telling.consistent
  have silent (other : ∀ uuid, query ≠ .detail uuid) (uuid : String)
      (waits : .jobInfo uuid ∈ (p.filed answer query).events) : .jobInfo uuid ∈ p.events := by
    refine (List.mem_append.mp waits).resolve_right fun mem => ?_
    cases p.announced_of_mem_news answer mem with
    | jobInfo uuid _ => exact other uuid rfl
  cases query with
  | list | state | status _ | schedules _ =>
    exact ⟨consistent, telling.own, fun uuid waits => telling.stored uuid (silent nofun uuid waits)⟩
  | detail uuid =>
    cases told : toldDetail? p.board.selected uuid answer with
    | none =>
      have same : p.filed answer (.detail uuid) = p := by
        simp only [Poll.filed, Board.filed, Poll.news, told, Option.none_or, Option.toList_none,
          List.map_nil, List.append_nil]
      rw [same]
      exact telling
    | some detail =>
      obtain ⟨selected, row, _, rfl⟩ := toldDetail?_eq_some told
      have stored : (p.filed answer (.detail uuid)).board.detail = some (Detail.ofFields uuid row) := by
        simp only [Poll.filed, Board.filed, told, Option.some_or]
      refine ⟨consistent, ?_, fun other waits => ?_⟩
      · rw [stored]
        rintro other ⟨⟩
        exact selected
      · rw [stored]
        rcases List.mem_append.mp waits with waits | news
        · exact (telling.stored other waits).imp id fun known => ⟨known.1, rfl⟩
        · cases p.announced_of_mem_news answer news with
          | jobInfo uuid selected => exact .inr ⟨selected, rfl⟩

theorem stride (telling : p.Telling others) (stride : Stride) : (p.stride stride).Telling others := by
  obtain ⟨busy, same⟩ | ⟨answer, query, busy, _, same⟩ := p.stride_cases stride
  · rw [same]
    exact telling.busy busy
  · rw [same]
    exact (telling.filed answer query).busy busy

theorem moved (telling : p.Telling others) (moved : p.Moved q) : q.Telling others :=
  moved.kept (fun _ stride telling => telling.stride stride) telling

end Telling

theorem Moved.events {p q : Poll} (moved : p.Moved q) : p.events <+: q.events := by
  refine moved.kept (I := fun q => p.events <+: q.events) (fun q stride before => ?_)
    (List.prefix_refl _)
  obtain ⟨news, events, _⟩ := (strode_stride q stride).told
  rw [events]
  exact before.trans (List.prefix_append _ _)

end Polling.Poll

namespace Console

/-! ## Taking announcements -/

def bulletins (c : Console) : Event → List (String × News)
  | .jobInfo uuid =>
    match c.newsOf? uuid with
    | some news => c.observers.audience.map fun label => (label, news)
    | none => []
  | _ => []

section

variable (c : Console) (event : Event)

@[simp] theorem observers_apply : (c.apply event).2.observers = c.observers := by
  cases event with
  | jobInfo uuid =>
    unfold apply
    dsimp only
    split <;> rfl
  | jobs | runState _ | schedules _ | fatal _ => rfl

theorem delivered_apply : (c.apply event).2.delivered = c.delivered ++ c.bulletins event := by
  cases event with
  | jobInfo uuid =>
    -- The table is brought in line first, which has nothing to do with the news.
    have same : c.reconcile.2.newsOf? uuid = c.newsOf? uuid := rfl
    unfold apply bulletins
    dsimp only
    rw [same]
    cases c.newsOf? uuid with
    | some news => rfl
    | none => exact (List.append_nil _).symm
  | jobs | runState _ | schedules _ | fatal _ => exact (List.append_nil _).symm

end

theorem bulletins_congr {c d : Console} (board : d.board = c.board)
    (observers : d.observers = c.observers) : d.bulletins = c.bulletins := by
  funext event
  cases event with
  | jobInfo uuid => simp only [bulletins, newsOf?, board, observers]
  | jobs | runState _ | schedules _ | fatal _ => rfl

theorem observers_applyAll (events : List Event) (c : Console) :
    (events.foldl (fun c event => (c.apply event).2) c).observers = c.observers := by
  induction events generalizing c with
  | nil => rfl
  | cons event events ih => rw [List.foldl_cons, ih, observers_apply]

theorem delivered_applyAll (events : List Event) (c : Console) :
    (events.foldl (fun c event => (c.apply event).2) c).delivered =
      c.delivered ++ events.flatMap c.bulletins := by
  induction events generalizing c with
  | nil => exact (List.append_nil _).symm
  | cons event events ih =>
    have same : (c.apply event).2.bulletins = c.bulletins :=
      bulletins_congr (congrArg Poll.board (c.poll_apply event)) (c.observers_apply event)
    rw [List.foldl_cons, ih, delivered_apply, same, List.flatMap_cons, List.append_assoc]

/-- From `m` to `d` nothing has been done but taking these announcements. -/
structure Took (m : Console) (taken : List Event) (d : Console) : Prop where
  queue : m.poll.events = taken ++ d.poll.events
  board : d.board = m.board
  observers : d.observers = m.observers
  delivered : d.delivered = m.delivered ++ taken.flatMap m.bulletins

section

variable (m : Console)

theorem took_nothing : Took m [] m := ⟨rfl, rfl, rfl, (List.append_nil _).symm⟩

theorem took_all : Took m m.poll.events m.pump.2 := by
  refine ⟨?_, m.board_pump, observers_applyAll _ _, delivered_applyAll _ _⟩
  rw [events_pump, List.append_nil]

theorem took_next : Took m (m.poll.events.take 1) m.applyNext.2 := by
  refine ⟨?_, ?_, ?_, ?_⟩
  · rw [poll_applyNext, ← List.drop_one]
    exact (List.take_append_drop 1 _).symm
  · rw [board, poll_applyNext]
    rfl
  · unfold applyNext Poll.takeEvent
    cases m.poll.events with
    | nil => rfl
    | cons event rest => exact observers_apply _ event
  · unfold applyNext Poll.takeEvent
    cases m.poll.events with
    | nil => exact (List.append_nil _).symm
    | cons event rest =>
      refine (delivered_apply _ event).trans ?_
      rw [List.take_succ_cons, List.take_zero, List.flatMap_singleton]
      rfl

end

/-- What the listeners hear when an announcement is applied: of progress of the selected job, if that
is on the roster, each hears once, and of anything else none. What they hear is the job as the roster
has it and the progress stored, which is that of the job. -/
inductive Informs (m : Console) : Event → List (String × News) → Prop where
  | told (uuid : String) (job : Snapshot) (detail : Detail)
    (selected : m.board.selected = some uuid) (listed : m.board.roster.job? uuid = some job)
    (own : job.uuid = uuid) (stored : m.board.detail = some detail) (about : detail.uuid = uuid) :
    Informs m (.jobInfo uuid)
      (m.observers.listeners.map fun listener => (listener.2, ⟨job, some detail⟩))
  | untold (event : Event)
    (other : ∀ uuid, event = .jobInfo uuid → m.board.selected = some uuid →
      m.board.roster.job? uuid = none) :
    Informs m event []

theorem informs_bulletins {c : Console} {others : String → Prop} (telling : c.poll.Telling others)
    (foreign : ∀ uuid, others uuid → c.board.selected ≠ some uuid) {event : Event}
    (waits : event ∈ c.poll.events) : c.Informs event (c.bulletins event) := by
  cases event with
  | jobs | runState _ | schedules _ | fatal _ =>
    exact .untold _ fun _ impossible => (nomatch impossible)
  | jobInfo uuid =>
    by_cases selected : c.board.selected = some uuid
    · obtain ⟨_, known⟩ :=
        (telling.stored uuid waits).resolve_left fun other => foreign uuid other selected
      obtain ⟨detail, stored⟩ := Option.isSome_iff_exists.mp known
      have about : some detail.uuid = some uuid := (telling.own detail stored).symm.trans selected
      have news : c.newsOf? uuid = (c.board.roster.job? uuid).map fun job => ⟨job, some detail⟩ := by
        rw [newsOf?, if_pos selected]
        exact congrArg (fun detail => Option.map (fun job => News.mk job detail) _) stored
      cases found : c.board.roster.job? uuid with
      | none =>
        simp only [bulletins, news, found, Option.map_none]
        refine .untold _ ?_
        rintro other ⟨⟩ _
        exact found
      | some job =>
        have own : job.uuid = uuid := by
          obtain ⟨h, get, rfl⟩ := Option.map_eq_some_iff.mp found
          exact (telling.consistent.get?_eq_some_iff.mp get).2
        simp only [bulletins, news, found, Option.map_some, Observers.audience, List.map_map]
        exact .told uuid job detail selected found own stored (Option.some.inj about)
    · simp only [bulletins, newsOf?, if_neg selected]
      refine .untold _ ?_
      rintro other ⟨⟩ same
      exact absurd same selected

/-! ## Operations -/

structure Awaiting (others : String → Prop) (before now : Console) : Prop where
  delivered : now.delivered = before.delivered
  observers : now.observers = before.observers
  queued : before.poll.events <+: now.poll.events
  telling : now.poll.Telling others

namespace Awaiting

variable {others : String → Prop} {before c : Console}

theorem start (telling : c.poll.Telling others) : Awaiting others c c :=
  ⟨rfl, rfl, List.prefix_refl _, telling⟩

theorem moved (awaiting : Awaiting others before c) {q : Poll} (moved : c.poll.Moved q) :
    Awaiting others before { c with poll := q } :=
  ⟨awaiting.delivered, awaiting.observers, awaiting.queued.trans moved.events,
    awaiting.telling.moved moved⟩

theorem keeps_polling {α : Type} {script : Script Poll α}
    (pieces : ∀ p, ∃ P, Pieces (Steady P) none p (script p)) :
    (polling script).Keeps (Awaiting others before) :=
  Console.keeps_polling (fun awaiting => awaiting.moved) pieces

theorem keeps_elapseWithin (fuel time : Nat) :
    (elapseWithin fuel time).Keeps (Awaiting others before) := by
  have cycle (withJobList : Bool) : (polling (Polling.cycle withJobList)).Asks
      (Awaiting others before) fun _ => True :=
    fun c awaiting => (keeps_polling (fun p => ⟨_, pieces_steady_cycle withJobList p⟩) c awaiting).asks
  have looping {c : Console} (loop : Option Loop) (awaiting : Awaiting others before c) :
      Awaiting others before { c with loop := loop } :=
    ⟨awaiting.delivered, awaiting.observers, awaiting.queued, awaiting.telling⟩
  exact fun c awaiting => (asks_elapseWithin cycle looping fuel time c awaiting).keeps

theorem ends {α : Type} {script : Script Console α}
    (keeps : script.Keeps (Awaiting others before)) (awaiting : Awaiting others before c)
    (server : Responses) :
    Awaiting others before ((script c).runWith (serving onPoll server) []).2.1 :=
  (keeps c awaiting).runWith
    (fun call sent _ awaiting => awaiting.moved (.strides _ (server sent call).meanwhile)) []

end Awaiting

theorem selecting_telling {c : Console} (telling : c.poll.Telling fun _ => False)
    {uuid : Option String} (other : c.board.selected ≠ uuid) :
    (c.selecting uuid).poll.Telling fun old => uuid ≠ some old := by
  have chosen : (c.poll.board.select uuid).2 =
      { c.poll.board with selected := uuid, detail := none, schedules := [] } :=
    congrArg Prod.snd (if_neg other)
  refine ⟨?_, ?_, fun old waits => .inl ?_⟩
  · change (c.poll.board.select uuid).2.roster.Consistent
    rw [Board.roster_select]
    exact telling.consistent
  · change ∀ detail, (c.poll.board.select uuid).2.detail = some detail → _
    rw [chosen]
    exact fun _ impossible => nomatch impossible
  · -- What waits is about the job selected before.
    obtain ⟨selected, _⟩ := (telling.stored old waits).resolve_left id
    exact fun same => other (selected.trans same.symm)

end Console

namespace Operation

open Console

def enrol (observers : Observers String) : Operation → Observers String
  | .subscribe label => (observers.subscribe label).2
  | .unsubscribe id => (observers.unsubscribe id).2
  | _ => observers

/-- The console when an operation begun at `c` has done everything but take announcements. -/
def midway (op : Operation) (server : Responses) (c : Console) : Console :=
  match op with
  | .refresh => ((polling refreshAll c).runWith (serving onPoll server) []).2.1
  | .select uuid =>
    if c.board.selected = uuid then c
    else if uuid.isSome then (fetched server (c.selecting uuid) []).1
    else c.selecting uuid
  | .pump | .next => c
  | op => (op.perform server c).1

/-- The announcements that the operation takes of those that wait then. -/
def taken (op : Operation) (c : Console) (waiting : List Event) : List Event :=
  match op with
  | .refresh | .pump => waiting
  | .select uuid => if c.board.selected = uuid then [] else waiting
  | .next => waiting.take 1
  | _ => []

theorem took_perform (op : Operation) (server : Responses) (c : Console) :
    let m := op.midway server c
    Took m (op.taken c m.poll.events) (op.perform server c).1 := by
  cases op with
  | refresh =>
    have ran : (refresh.perform server c).1 = (refresh.midway server c).pump.2 := by
      rw [perform, script, Script.bind_apply, runWith_bind, Console.refresh, Script.bind_apply,
        runWith_bind]
      rfl
    rw [ran]
    exact took_all _
  | select uuid =>
    rw [perform_select, midway]
    dsimp only [taken]
    split
    · exact took_nothing c
    · split <;> exact took_all _
  | pump => exact took_all c
  | next => exact took_next c
  | cycle _ | elapse _ | carryOut _ | setSort _ | start | stop | subscribe _ | unsubscribe _ =>
    exact took_nothing _

structure Brought (op : Operation) (c m : Console) : Prop where
  delivered : m.delivered = c.delivered
  observers : m.observers = op.enrol c.observers
  queued : c.poll.events <+: m.poll.events
  /-- What is left of the job chosen before is taken. -/
  telling : ∃ others, m.poll.Telling others ∧ ∀ uuid, others uuid →
    m.board.selected ≠ some uuid ∧ op.taken c m.poll.events = m.poll.events

section

variable {op : Operation} {c m d : Console}

theorem brought_of_awaiting (awaiting : Awaiting (fun _ => False) c m)
    (silent : ∀ o, op.enrol o = o) : Brought op c m :=
  ⟨awaiting.delivered, awaiting.observers.trans (silent _).symm, awaiting.queued, _,
    awaiting.telling, fun _ => False.elim⟩

theorem brought_aside (telling : c.poll.Telling fun _ => False) (board : m.board = c.board)
    (events : m.poll.events = c.poll.events) (delivered : m.delivered = c.delivered)
    (observers : m.observers = op.enrol c.observers) : Brought op c m := by
  refine ⟨delivered, observers, events ▸ List.prefix_refl _, fun _ => False, ?_, fun _ => False.elim⟩
  obtain ⟨consistent, own, stored⟩ := telling
  refine ⟨?_, ?_, ?_⟩
  · change m.board.roster.Consistent
    rw [board]
    exact consistent
  · change ∀ detail, m.board.detail = some detail → m.board.selected = some detail.uuid
    rw [board]
    exact own
  · change ∀ uuid, _ → _ ∨ m.board.selected = some uuid ∧ m.board.detail.isSome = true
    rw [board, events]
    exact stored

theorem Brought.telling_of_took (brought : Brought op c m)
    (took : Took m (op.taken c m.poll.events) d) : d.poll.Telling fun _ => False := by
  obtain ⟨others, ⟨consistent, own, stored⟩, gone⟩ := brought.telling
  have board : d.poll.board = m.poll.board := took.board
  refine ⟨?_, ?_, fun uuid waits => .inr ?_⟩
  · rw [board]
    exact consistent
  · rw [board]
    exact own
  · have waited : .jobInfo uuid ∈ m.poll.events := by
      rw [took.queue]
      exact List.mem_append_right _ waits
    rw [board]
    refine (stored uuid waited).resolve_left fun other => ?_
    -- nothing waits any more if there was something about other jobs
    have all := took.queue
    rw [(gone uuid other).2] at all
    rw [List.append_right_eq_self.mp all.symm] at waits
    cases waits

end

/-- The announcements of the job chosen before are taken with its progress dropped, but bring no
news: the job is not selected any more. -/
theorem brought_select {c : Console} (telling : c.poll.Telling fun _ => False)
    (uuid : Option String) (server : Responses) :
    Brought (select uuid) c ((select uuid).midway server c) := by
  rw [midway]
  by_cases same : c.board.selected = uuid
  · rw [if_pos same]
    exact brought_of_awaiting (.start telling) fun _ => rfl
  have chosen : Awaiting (fun old => uuid ≠ some old) c (c.selecting uuid) :=
    ⟨rfl, rfl, List.prefix_refl _, selecting_telling telling same⟩
  have selected : (c.selecting uuid).board.selected = uuid :=
    Board.selected_select c.poll.board uuid
  have brought {m : Console} (awaiting : Awaiting (fun old => uuid ≠ some old) c m)
      (still : m.board.selected = uuid) : Brought (select uuid) c m := by
    refine ⟨awaiting.delivered, awaiting.observers, awaiting.queued, _, awaiting.telling, ?_⟩
    exact fun old foreign => ⟨fun back => foreign (still.symm.trans back), if_neg same⟩
  rw [if_neg same]
  split
  · have moved : (c.selecting uuid).poll.Moved (fetched server (c.selecting uuid) []).1.poll :=
      moved_run (pieces_steady_fetch _) server []
    exact brought (chosen.moved moved) (moved.selected.trans selected)
  · exact brought chosen selected

theorem brought_midway {c : Console} (telling : c.poll.Telling fun _ => False) (op : Operation)
    (server : Responses) : Brought op c (op.midway server c) := by
  have awaiting := Awaiting.start telling
  have asks (withJobList : Bool) :
      (polling (Polling.cycle withJobList)).Keeps (Awaiting (fun _ => False) c) :=
    Awaiting.keeps_polling fun p => ⟨_, pieces_steady_cycle withJobList p⟩
  cases op with
  | refresh => exact brought_of_awaiting (Awaiting.ends (asks true) awaiting server) fun _ => rfl
  | cycle withJobList =>
    have keeps := (asks withJobList).bind fun _ => Script.keeps_pure ()
    exact brought_of_awaiting (Awaiting.ends keeps awaiting server) fun _ => rfl
  | elapse time =>
    have keeps : (Console.elapse time).Keeps (Awaiting (fun _ => False) c) :=
      Awaiting.keeps_elapseWithin _ time
    exact brought_of_awaiting (Awaiting.ends keeps awaiting server) fun _ => rfl
  | select uuid => exact brought_select telling uuid server
  | carryOut order =>
    have sending : (Console.carryOut order).Keeps (Awaiting (fun _ => False) c) :=
      Awaiting.keeps_polling fun p => ⟨_, pieces_steady_carryOut order p⟩
    have keeps := sending.bind fun _ => Script.keeps_pure ()
    exact brought_of_awaiting (Awaiting.ends keeps awaiting server) fun _ => rfl
  | pump | next => exact brought_of_awaiting awaiting fun _ => rfl
  | start =>
    refine brought_aside telling ?_ ?_ ?_ ?_ <;>
      · unfold midway perform script Console.start
        simp only [Script.modify, Step.runWith]
        split <;> rfl
  | setSort _ | stop | subscribe _ | unsubscribe _ => exact brought_aside telling rfl rfl rfl rfl

theorem kept_performAll {c : Console} (telling : c.poll.Telling fun _ => False)
    (operations : List (Operation × Responses)) :
    ((c.performAll operations).poll.Telling fun _ => False) ∧
      (c.performAll operations).observers = (operations.map Prod.fst).foldl enrol c.observers := by
  induction operations generalizing c with
  | nil => exact ⟨telling, rfl⟩
  | cons operation rest ih =>
    have brought := brought_midway telling operation.1 operation.2
    have took := took_perform operation.1 operation.2 c
    have observers := took.observers.trans brought.observers
    rw [List.map_cons, List.foldl_cons, ← observers]
    exact ih (brought.telling_of_took took)

/-- After any operations, whatever the server answers and polling in the background does meanwhile, an
operation comes to a point `m` at which nothing has been delivered yet. Then it takes announcements,
those that waited before it first, and nothing else changes what is selected, stored or registered. Of
each announcement taken the registered listeners are told once if it is about progress of the selected
job and that job is on the roster, and not at all otherwise; what they are told is the job as the
roster has it, and the progress of that job. -/
theorem news_about_selected (settings : Settings) (key : SortKey)
    (operations : List (Operation × Responses)) (op : Operation) (server : Responses) :
    let c := (Console.new settings key).performAll operations
    let m := op.midway server c
    let d := (op.perform server c).1
    m.observers = (operations.map Prod.fst ++ [op]).foldl enrol {} ∧
      c.poll.events <+: m.poll.events ∧ d.board = m.board ∧
      m.poll.events = op.taken c m.poll.events ++ d.poll.events ∧
      ∃ heard, List.Forall₂ m.Informs (op.taken c m.poll.events) heard ∧
        d.delivered = c.delivered ++ heard.flatten := by
  intro c m d
  have new : (Console.new settings key).poll.Telling fun _ => False :=
    ⟨Roster.consistent_of_handles_eq_nil rfl rfl, fun _ impossible => (nomatch impossible),
      fun _ impossible => nomatch impossible⟩
  obtain ⟨telling, registered⟩ := kept_performAll new operations
  have brought : Brought op c m := brought_midway telling op server
  have took : Took m (op.taken c m.poll.events) d := took_perform op server c
  obtain ⟨others, telling, foreign⟩ := brought.telling
  refine ⟨?_, brought.queued, took.board, took.queue, (op.taken c m.poll.events).map m.bulletins, ?_,
    ?_⟩
  · rw [brought.observers, registered, List.foldl_append]
    rfl
  · rw [List.forall₂_map_right_iff, List.forall₂_same]
    intro event mem
    have waits : event ∈ m.poll.events := by
      rw [took.queue]
      exact List.mem_append_left _ mem
    exact informs_bulletins telling (fun uuid other => (foreign uuid other).1) waits
  · rw [took.delivered, brought.delivered, List.flatMap_def]

end Operation

end BackupConsole
