/-!
# Observers

Listeners register for the news about the selected job. A round of news goes to the listeners that
are registered when it starts, in the order of their registration; what they register or remove
meanwhile counts from the next round on. Each registration gets a number of its own.
-/

set_option autoImplicit false

namespace BackupConsole

/-- The registered listeners with their numbers, and the number of the next one. The numbers have no
end here; a counter of 64 bits would start again after 2^64 registrations. -/
structure Observers (α : Type) where
  listeners : List (Nat × α) := []
  next : Nat := 0
deriving Repr, Inhabited

namespace Observers

variable {α : Type}

def subscribe (o : Observers α) (listener : α) : Nat × Observers α :=
  (o.next, { listeners := o.listeners ++ [(o.next, listener)], next := o.next + 1 })

def unsubscribe (o : Observers α) (id : Nat) : Bool × Observers α :=
  let listeners := o.listeners.filter fun entry => entry.1 != id
  (listeners.length != o.listeners.length, { o with listeners })

def size (o : Observers α) : Nat := o.listeners.length

def isEmpty (o : Observers α) : Bool := o.listeners.isEmpty

def handedOut (o : Observers α) (id : Nat) : Bool := id < o.next

def audience (o : Observers α) : List α := o.listeners.map Prod.snd

theorem audience_subscribe (o : Observers α) (listener : α) :
    (o.subscribe listener).2.audience = o.audience ++ [listener] := by
  simp [subscribe, audience]

theorem size_eq_length_audience (o : Observers α) : o.size = o.audience.length := by
  simp [size, audience]

end Observers

inductive Reaction where
  | nothing
  | subscribe (label : String) (reaction : Reaction)
  | unsubscribe (id : Nat)
  | both (first second : Reaction)
deriving Repr, Inhabited

/-- A listener that notes each call under its label and then reacts. -/
structure Listener where
  label : String
  reaction : Reaction := .nothing
deriving Repr, Inhabited

inductive Notice where
  | called (label : String)
  /-- A listener tried to remove a registration; `known` says whether the number had been given out,
  `removed` whether it was still registered. -/
  | unsubscribed (known removed : Bool)
deriving DecidableEq, Repr

def Reaction.perform (o : Observers Listener) : Reaction → List Notice × Observers Listener
  | .nothing => ([], o)
  | .subscribe label reaction => ([], (o.subscribe ⟨label, reaction⟩).2)
  | .unsubscribe id =>
    let (removed, after) := o.unsubscribe id
    ([.unsubscribed (o.handedOut id) removed], after)
  | .both first second =>
    let (early, o) := first.perform o
    let (late, o) := second.perform o
    (early ++ late, o)

def Listener.call (o : Observers Listener) (listener : Listener) :
    List Notice × Observers Listener :=
  let (notices, o) := listener.reaction.perform o
  (.called listener.label :: notices, o)

def callAll (o : Observers Listener) : List Listener → List Notice × Observers Listener
  | [] => ([], o)
  | listener :: rest =>
    let (first, o) := listener.call o
    let (others, o) := callAll o rest
    (first ++ others, o)

def Observers.notify (o : Observers Listener) : List Notice × Observers Listener :=
  callAll o o.audience

end BackupConsole
