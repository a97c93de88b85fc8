import BackupConsole.Observers
import Mathlib.Data.List.Basic
import Mathlib.Data.List.Nodup

/-!
# Rounds of news

What is done to the registry is a list of changes, whether they are made from outside or by a listener
in the middle of a round. So what holds of the registry after any changes holds at every moment of
every round.
-/

set_option autoImplicit false

namespace BackupConsole

namespace Observers

inductive Change where
  | subscribe (listener : Listener)
  | unsubscribe (id : Nat)

inductive Outcome where
  | registered (id : Nat) (listener : Listener)
  | answered (id : Nat) (removed : Bool)

def Outcome.registration? : Outcome → Option (Nat × Listener)
  | .registered id listener => some (id, listener)
  | .answered _ _ => none

def Outcome.answer? : Outcome → Option Bool
  | .registered _ _ => none
  | .answered _ removed => some removed

def Outcome.removal? : Outcome → Option Nat
  | .answered id true => some id
  | _ => none

/-- The registrations with the numbers handed out for them, in their order. -/
def registrations (outcomes : List Outcome) : List (Nat × Listener) :=
  outcomes.filterMap Outcome.registration?

def removals (outcomes : List Outcome) : List Nat := outcomes.filterMap Outcome.removal?

def make (o : Observers Listener) : Change → Outcome × Observers Listener
  | .subscribe listener => (.registered (o.subscribe listener).1 listener, (o.subscribe listener).2)
  | .unsubscribe id => (.answered id (o.unsubscribe id).1, (o.unsubscribe id).2)

def makeAll (o : Observers Listener) : List Change → List Outcome × Observers Listener
  | [] => ([], o)
  | change :: rest =>
    let (outcome, o) := o.make change
    let (outcomes, o) := o.makeAll rest
    (outcome :: outcomes, o)

theorem makeAll_append (o : Observers Listener) (first rest : List Change) :
    o.makeAll (first ++ rest) =
      ((o.makeAll first).1 ++ ((o.makeAll first).2.makeAll rest).1,
        ((o.makeAll first).2.makeAll rest).2) := by
  induction first generalizing o with
  | nil => rfl
  | cons change first ih => simp only [List.cons_append, makeAll, ih]

/-! ## Numbers -/

section Numbers

variable {o : Observers Listener} {outcomes : List Outcome}

theorem unsubscribe_iff {α : Type} (o : Observers α) (id : Nat) :
    (o.unsubscribe id).1 = true ↔ id ∈ o.listeners.map Prod.fst := by
  simp only [unsubscribe, bne_iff_ne, ne_eq, List.length_filter_eq_length_iff]
  simp [eq_comm]

/-- The registry is what its past says: a number for each registration, never the same one again, and
listed are the registrations that have not been removed. -/
structure Accounted (outcomes : List Outcome) (o : Observers Listener) : Prop where
  numbered : (registrations outcomes).map Prod.fst = List.range o.next
  listed : o.listeners = (registrations outcomes).filter fun entry => entry.1 ∉ removals outcomes
  known : ∀ id ∈ removals outcomes, id < o.next
  once : (removals outcomes).Nodup

theorem accounted_new : Accounted [] {} := by
  constructor <;> simp [registrations, removals]

theorem Accounted.subscribe (account : Accounted outcomes o) (listener : Listener) :
    Accounted (outcomes ++ [.registered (o.subscribe listener).1 listener])
      (o.subscribe listener).2 := by
  have registered : registrations (outcomes ++ [.registered o.next listener]) =
      registrations outcomes ++ [(o.next, listener)] := by
    simp [registrations, Outcome.registration?]
  have removed : removals (outcomes ++ [.registered o.next listener]) = removals outcomes := by
    simp [removals, Outcome.removal?]
  have fresh : o.next ∉ removals outcomes := fun member =>
    Nat.lt_irrefl _ (account.known _ member)
  constructor
  · simp only [Observers.subscribe, registered, List.map_append, account.numbered, List.map_cons,
      List.map_nil, List.range_succ]
  · simp only [Observers.subscribe, registered, removed, List.filter_append, ← account.listed]
    simp [fresh]
  · intro id member
    simp only [Observers.subscribe, removed] at member ⊢
    exact Nat.lt_succ_of_lt (account.known id member)
  · simpa only [Observers.subscribe, removed] using account.once

theorem Accounted.mem_numbers_iff (account : Accounted outcomes o) (id : Nat) :
    id ∈ o.listeners.map Prod.fst ↔ id < o.next ∧ id ∉ removals outcomes := by
  have handed : id ∈ (registrations outcomes).map Prod.fst ↔ id < o.next := by
    rw [account.numbered, List.mem_range]
  rw [← handed, account.listed]
  simp only [List.mem_map, List.mem_filter, decide_eq_true_eq]
  constructor
  · rintro ⟨entry, ⟨member, standing⟩, rfl⟩
    exact ⟨⟨entry, member, rfl⟩, standing⟩
  · rintro ⟨⟨entry, member, rfl⟩, standing⟩
    exact ⟨entry, ⟨member, standing⟩, rfl⟩

theorem unsubscribe_of_unknown {α : Type} {o : Observers α} {id : Nat}
    (unknown : (o.unsubscribe id).1 = false) : (o.unsubscribe id).2 = o := by
  have absent : id ∉ o.listeners.map Prod.fst := fun member =>
    Bool.false_ne_true (unknown.symm.trans ((o.unsubscribe_iff id).2 member))
  have kept : o.listeners.filter (fun entry => entry.1 != id) = o.listeners := by
    rw [List.filter_eq_self]
    intro entry member
    simp only [bne_iff_ne]
    rintro rfl
    exact absent (List.mem_map_of_mem member)
  simp only [Observers.unsubscribe, kept]

theorem registrations_answered (outcomes : List Outcome) (id : Nat) (removed : Bool) :
    registrations (outcomes ++ [.answered id removed]) = registrations outcomes := by
  simp [registrations, Outcome.registration?]

theorem Accounted.refuse (account : Accounted outcomes o) (id : Nat) :
    Accounted (outcomes ++ [.answered id false]) o := by
  have removed : removals (outcomes ++ [.answered id false]) = removals outcomes := by
    simp [removals, Outcome.removal?]
  constructor
  · rw [registrations_answered, account.numbered]
  · rw [registrations_answered, removed, account.listed]
  · rw [removed]
    exact account.known
  · rw [removed]
    exact account.once

theorem Accounted.remove (account : Accounted outcomes o) {id : Nat}
    (known : id ∈ o.listeners.map Prod.fst) :
    Accounted (outcomes ++ [.answered id true]) (o.unsubscribe id).2 := by
  have removed : removals (outcomes ++ [.answered id true]) = removals outcomes ++ [id] := by
    simp [removals, Outcome.removal?]
  obtain ⟨handed, standing⟩ := (account.mem_numbers_iff id).1 known
  constructor
  · rw [registrations_answered, account.numbered]
    rfl
  · rw [registrations_answered, removed]
    simp only [Observers.unsubscribe, account.listed, List.filter_filter]
    refine List.filter_congr fun entry _ => Bool.eq_iff_iff.2 ?_
    simp [and_comm]
  · intro other member
    rw [removed, List.mem_append, List.mem_singleton] at member
    rcases member with member | rfl
    · exact account.known other member
    · exact handed
  · rw [removed, List.nodup_append]
    refine ⟨account.once, List.nodup_singleton id, ?_⟩
    intro other member last given
    rw [List.mem_singleton.1 given]
    rintro rfl
    exact standing member

theorem Accounted.unsubscribe (account : Accounted outcomes o) (id : Nat) :
    Accounted (outcomes ++ [.answered id (o.unsubscribe id).1]) (o.unsubscribe id).2 := by
  cases known : (o.unsubscribe id).1 with
  | false =>
    rw [unsubscribe_of_unknown known]
    exact account.refuse id
  | true => exact account.remove ((o.unsubscribe_iff id).1 known)

theorem Accounted.make (account : Accounted outcomes o) (change : Change) :
    Accounted (outcomes ++ [(o.make change).1]) (o.make change).2 := by
  cases change with
  | subscribe listener => exact account.subscribe listener
  | unsubscribe id => exact account.unsubscribe id

theorem Accounted.makeAll (account : Accounted outcomes o) (changes : List Change) :
    Accounted (outcomes ++ (o.makeAll changes).1) (o.makeAll changes).2 := by
  induction changes generalizing o outcomes with
  | nil => simpa only [Observers.makeAll, List.append_nil] using account
  | cons change rest ih =>
    simpa only [Observers.makeAll, List.append_assoc, List.singleton_append]
      using ih (account.make change)

end Numbers

end Observers

/-! ## A round -/

open Observers (Change)

def Reaction.changes : Reaction → List Change
  | .nothing => []
  | .subscribe label reaction => [.subscribe ⟨label, reaction⟩]
  | .unsubscribe id => [.unsubscribe id]
  | .both first second => first.changes ++ second.changes

def Notice.label? : Notice → Option String
  | .called label => some label
  | .unsubscribed _ _ => none

def Notice.answer? : Notice → Option Bool
  | .called _ => none
  | .unsubscribed _ removed => some removed

theorem Reaction.perform_snd (reaction : Reaction) (o : Observers Listener) :
    (reaction.perform o).2 = (o.makeAll reaction.changes).2 := by
  induction reaction generalizing o with
  | nothing => rfl
  | subscribe label reaction => rfl
  | unsubscribe id => rfl
  | both first second early late =>
    simp only [perform, changes, Observers.makeAll_append, early, late]

theorem Reaction.labels_perform (reaction : Reaction) (o : Observers Listener) :
    (reaction.perform o).1.filterMap Notice.label? = [] := by
  induction reaction generalizing o with
  | nothing => rfl
  | subscribe label reaction => rfl
  | unsubscribe id => rfl
  | both first second early late =>
    simp only [perform, List.filterMap_append, early, late, List.append_nil]

theorem Reaction.answers_perform (reaction : Reaction) (o : Observers Listener) :
    (reaction.perform o).1.filterMap Notice.answer? =
      (o.makeAll reaction.changes).1.filterMap Observers.Outcome.answer? := by
  induction reaction generalizing o with
  | nothing => rfl
  | subscribe label reaction => rfl
  | unsubscribe id => rfl
  | both first second early late =>
    simp only [perform, changes, Observers.makeAll_append, List.filterMap_append, early, late,
      perform_snd]

namespace Observers

theorem callAll_snd (audience : List Listener) (o : Observers Listener) :
    (callAll o audience).2 = (o.makeAll (audience.flatMap (·.reaction.changes))).2 := by
  induction audience generalizing o with
  | nil => rfl
  | cons listener rest ih =>
    simp only [callAll, Listener.call, List.flatMap_cons, makeAll_append, Reaction.perform_snd, ih]

theorem labels_callAll (audience : List Listener) (o : Observers Listener) :
    (callAll o audience).1.filterMap Notice.label? = audience.map (·.label) := by
  induction audience generalizing o with
  | nil => rfl
  | cons listener rest ih =>
    simp only [callAll, Listener.call, List.cons_append, List.filterMap_cons, Notice.label?,
      List.filterMap_append, Reaction.labels_perform, List.nil_append, ih, List.map_cons]

theorem answers_callAll (audience : List Listener) (o : Observers Listener) :
    (callAll o audience).1.filterMap Notice.answer? =
      (o.makeAll (audience.flatMap (·.reaction.changes))).1.filterMap Outcome.answer? := by
  induction audience generalizing o with
  | nil => rfl
  | cons listener rest ih =>
    simp only [callAll, Listener.call, List.cons_append, List.filterMap_cons, Notice.answer?,
      List.filterMap_append, Reaction.answers_perform, Reaction.perform_snd, List.flatMap_cons,
      makeAll_append, ih]

/-! ## Runs -/

inductive Act where
  | change (change : Change)
  | notify

def act (o : Observers Listener) : Act → Observers Listener
  | .change change => (o.make change).2
  | .notify => o.notify.2

/-- The changes that an act comes down to: those of its listeners, if it is a round. -/
def changesOf (o : Observers Listener) : Act → List Change
  | .change change => [change]
  | .notify => o.audience.flatMap (·.reaction.changes)

def afterActs (o : Observers Listener) (acts : List Act) : Observers Listener := acts.foldl act o

/-- All that has been done to the registry, in the order in which it was done. -/
def history (o : Observers Listener) : List Act → List Change
  | [] => []
  | act :: rest => o.changesOf act ++ (o.act act).history rest

theorem act_eq (o : Observers Listener) (act : Act) :
    o.act act = (o.makeAll (o.changesOf act)).2 := by
  cases act with
  | change change => rfl
  | notify => exact callAll_snd o.audience o

theorem afterActs_eq (o : Observers Listener) (acts : List Act) :
    o.afterActs acts = (o.makeAll (o.history acts)).2 := by
  induction acts generalizing o with
  | nil => rfl
  | cons first rest ih =>
    change (o.act first).afterActs rest = _
    rw [ih, history, makeAll_append, ← act_eq]

/-- After any acts, a round calls the listeners that are registered when it starts, each once and in
the order of their registration. The registry after it is the one before it with the changes of the
listeners made in the order of the calls, which is how their removals are answered. At every moment,
in the middle of a round as well, no number has been handed out or removed twice, the listeners are
those registered so far that have not been removed, and a removal succeeds exactly if its number is
registered. -/
theorem rounds_exact (acts : List Act) :
    let o := afterActs {} acts
    let changes := o.listeners.flatMap (·.2.reaction.changes)
    o.notify.1.filterMap Notice.label? = o.listeners.map (·.2.label) ∧
      o.notify.2 = (o.makeAll changes).2 ∧
      o.notify.1.filterMap Notice.answer? = (o.makeAll changes).1.filterMap Outcome.answer? ∧
      o = (makeAll {} (history {} acts)).2 ∧
      ∀ moment,
        let (outcomes, midway) := makeAll {} ((history {} acts).take moment)
        ((registrations outcomes).map Prod.fst).Nodup ∧ (removals outcomes).Nodup ∧
          midway.listeners =
            (registrations outcomes).filter (fun entry => entry.1 ∉ removals outcomes) ∧
          ∀ id, (midway.unsubscribe id).1 = true ↔ id ∈ midway.listeners.map Prod.fst := by
  intro o changes
  have same : o.audience.flatMap (·.reaction.changes) = changes := by
    simp only [changes, audience, List.flatMap_map]
  refine ⟨?_, ?_, ?_, afterActs_eq {} acts, ?_⟩
  · rw [notify, labels_callAll, audience, List.map_map]
    rfl
  · rw [notify, callAll_snd, same]
  · rw [notify, answers_callAll, same]
  · intro moment
    have account := accounted_new.makeAll ((history {} acts).take moment)
    rw [List.nil_append] at account
    exact ⟨account.numbered ▸ List.nodup_range, account.once, account.listed, unsubscribe_iff _⟩

end Observers

end BackupConsole
