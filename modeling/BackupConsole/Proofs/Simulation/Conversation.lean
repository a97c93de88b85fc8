import BackupConsole.Proofs.Wire.Reading
import BackupConsole.Simulation.Peer
import Mathlib.Data.List.Dedup

/-!
# Conversations of a client

A client sends one request after another. Each attempt to connect is refused, or gives a connection
on which the server says what it has to say and closes its side. The answer to a request is read on
the connection that the request was written on; after an answer or a rejection the next answer begins
with the line after it, and after any other failure another attempt is made.
-/

set_option autoImplicit false

namespace BackupConsole.Simulation

open Text Wire

inductive Attempt where
  | refused (unreachable : Bool)
  | accepted (bytes : List UInt8)

/-- The peer that one attempt finds; its connection has the number of the attempt. -/
def Attempt.peer (number : Nat) : Attempt → Peer
  | .refused unreachable => { accepted := number, unreachable }
  | .accepted bytes => { scripts := [[[.bytes bytes]]], accepted := number }

def refusalReason (unreachable : Bool) : String :=
  if unreachable then "Network is unreachable (os error 101)"
  else "Connection refused (os error 111)"

/-- The answer to a request, the connections that the request was written on, and what was written. -/
structure Spoken where
  answer : Answer
  connections : List Nat
  text : String

structure Caller where
  client : Client := {}
  tried : Nat := 0

def written (received : List (Nat × String)) : List Char :=
  received.flatMap fun entry => entry.2.toList

section

variable (address : String) (attempts : Nat → Attempt)

/-- Where a client stands between two requests: the open connection with the lines on it that are not
read, the number of its next request, and the number of its next attempt to connect. -/
structure Stand where
  link : Option (Nat × List (List UInt8)) := none
  nextId : UInt64 := 1
  tried : Nat := 0

def Caller.stand (c : Caller) : Stand where
  link := c.client.link.map fun link => (link.index, byteLines link.unread)
  nextId := c.client.nextId
  tried := c.tried

def sentRequests (requests : List Request) (spoken : List Spoken) : List (Request × Spoken) :=
  (requests.zip spoken).filter fun said => !said.2.connections.isEmpty

/-- What one request comes to. -/
inductive Talk (request : Request) : Stand → Spoken → Stand → Prop where
  | refused {id : UInt64} {tried : Nat} (unreachable : Bool)
      (refuses : attempts tried = .refused unreachable) :
      Talk request ⟨none, id, tried⟩
        ⟨.failed (.connection (address ++ ": " ++ refusalReason unreachable)), [], ""⟩
        ⟨none, id, tried + 1⟩
  | opened {id : UInt64} {tried : Nat} (bytes : List UInt8)
      (accepts : attempts tried = .accepted bytes) {answer : Answer}
      {left : Option (List (List UInt8))} (answered : Answered id (byteLines bytes) answer left) :
      Talk request ⟨none, id, tried⟩ ⟨answer, [tried], request.line id⟩
        ⟨left.map fun lines => (tried, lines), id + 1, tried + 1⟩
  | continued {id : UInt64} {tried number : Nat} {lines : List (List UInt8)} {answer : Answer}
      {left : Option (List (List UInt8))} (answered : Answered id lines answer left) :
      Talk request ⟨some (number, lines), id, tried⟩ ⟨answer, [number], request.line id⟩
        ⟨left.map fun lines => (number, lines), id + 1, tried⟩

inductive Conversation : Stand → List Request → List Spoken → Stand → Prop where
  | nil (s : Stand) : Conversation s [] [] s
  | cons {s t u : Stand} {request : Request} {requests : List Request} {spoken : Spoken}
      {others : List Spoken} (talk : Talk address attempts request s spoken t)
      (rest : Conversation t requests others u) :
      Conversation s (request :: requests) (spoken :: others) u

end

/-! ## What the peer receives -/

/-- The texts are all received on connection `index` and make up `text`. -/
structure Logged (index : Nat) (text : List Char) (received : List (Nat × String)) : Prop where
  same : ∀ entry ∈ received, entry.1 = index
  whole : written received = text

theorem written_append (received more : List (Nat × String)) :
    written (received ++ more) = written received ++ written more := List.flatMap_append

theorem written_singleton (entry : Nat × String) : written [entry] = entry.2.toList :=
  List.flatMap_singleton ..

namespace Logged

variable {index : Nat} {text : List Char} {received : List (Nat × String)}

theorem add (logged : Logged index text received) (line : String) :
    Logged index (text ++ line.toList) (received ++ [(index, line)]) := by
  refine ⟨?_, ?_⟩
  · intro entry mem
    obtain mem | mem := List.mem_append.mp mem
    · exact logged.same entry mem
    · rw [List.mem_singleton.mp mem]
  · rw [written_append, logged.whole, written_singleton]

theorem addLast {entry : Nat × String} (logged : Logged index text (received ++ [entry]))
    (line : String) : Logged index (text ++ line.toList) (received ++ [(entry.1, entry.2 ++ line)]) := by
  obtain ⟨same, rfl⟩ := logged
  refine ⟨?_, ?_⟩
  · intro other mem
    obtain mem | mem := List.mem_append.mp mem
    · exact same other (List.mem_append_left _ mem)
    · rw [List.mem_singleton.mp mem]
      exact same entry (List.mem_append_right _ (List.mem_singleton.mpr rfl))
  · rw [written_append, written_append, written_singleton, written_singleton, List.append_assoc,
      String.toList_append]

theorem connections (logged : Logged index text received) (some : text ≠ []) :
    (received.map Prod.fst).dedup = [index] := by
  have nonempty : received ≠ [] := by
    rintro rfl
    exact some logged.whole.symm
  have same : received.map Prod.fst = List.replicate received.length index := by
    rw [List.eq_replicate_iff]
    refine ⟨List.length_map .., ?_⟩
    intro number mem
    obtain ⟨entry, listed, rfl⟩ := List.mem_map.mp mem
    exact logged.same entry listed
  rw [same, List.replicate_dedup]
  exact fun zero => nonempty (List.length_eq_zero_iff.mp zero)

theorem receive (logged : Logged index text received) (lines : List String) {link : Link}
    (own : link.index = index) {peer : Peer} (all : peer.received = received) :
    Logged index (text ++ (lines.map String.toList).flatten)
      (Simulation.receive lines link peer).2.received := by
  induction lines generalizing link peer text received with
  | nil =>
    rw [List.map_nil, List.flatten_nil, List.append_nil, Simulation.receive, all]
    exact logged
  | cons line lines ih =>
    rw [List.map_cons, List.flatten_cons, ← List.append_assoc]
    subst own all
    unfold Simulation.receive
    split
    · exact ih (logged.add line) (by rfl) (by rfl)
    · dsimp only
      split
      · rename_i last
        obtain ⟨before, received⟩ := List.getLast?_eq_some_iff.mp last
        rw [received] at logged
        refine ih (logged.addLast line) (by rfl) ?_
        dsimp only
        rw [received, List.dropLast_concat]
      · exact ih (logged.add line) (by rfl) (by rfl)

end Logged

theorem exchange_of_connect {client : Client} {request : Request} {peer other after : Peer}
    {link received : Link} (connects : connect client peer = (.ok link, other))
    (receives : receive (requestLines (request.line client.nextId)) link other = (received, after))
    (address : String) :
    exchange address request client peer =
      ((readAnswer client.nextId (byteLines received.unread)).1,
        { link := (leftAfter (readAnswer client.nextId (byteLines received.unread))).map fun rest =>
            { received with unread := rest.flatten }
          nextId := client.nextId + 1 },
        after) := by
  unfold exchange leftAfter
  rw [connects]
  dsimp only
  rw [receives]
  dsimp only
  split <;> rfl

section

variable {address : String} {attempts : Nat → Attempt} {request : Request} {c : Caller}

theorem Talk.unique {s t u : Stand} {spoken other : Spoken}
    (talk : Talk address attempts request s spoken t)
    (again : Talk address attempts request s other u) : spoken = other ∧ t = u := by
  cases talk with
  | refused unreachable refuses =>
    cases again with
    | refused unreachable' refuses' =>
      cases refuses.symm.trans refuses'
      exact ⟨rfl, rfl⟩
    | opened bytes accepts answered => cases refuses.symm.trans accepts
  | opened bytes accepts answered =>
    cases again with
    | refused unreachable refuses => cases refuses.symm.trans accepts
    | opened bytes' accepts' answered' =>
      cases accepts.symm.trans accepts'
      obtain ⟨rfl, rfl⟩ := answered_iff.mp answered
      obtain ⟨rfl, rfl⟩ := answered_iff.mp answered'
      exact ⟨rfl, rfl⟩
  | continued answered =>
    cases again with
    | continued answered' =>
      obtain ⟨rfl, rfl⟩ := answered_iff.mp answered
      obtain ⟨rfl, rfl⟩ := answered_iff.mp answered'
      exact ⟨rfl, rfl⟩

end

/-! ## Conversations -/

section

variable {address : String} {attempts : Nat → Attempt}

theorem Conversation.unique {s t u : Stand} {requests : List Request} {spoken others : List Spoken}
    (first : Conversation address attempts s requests spoken t)
    (second : Conversation address attempts s requests others u) : spoken = others ∧ t = u := by
  induction first generalizing others u with
  | nil s =>
    cases second
    exact ⟨rfl, rfl⟩
  | cons talk rest ih =>
    cases second with
    | cons talk' rest' =>
      obtain ⟨rfl, rfl⟩ := talk.unique talk'
      obtain ⟨rfl, rfl⟩ := ih rest'
      exact ⟨rfl, rfl⟩

theorem Talk.numbered {request : Request} {s t : Stand} {spoken : Spoken}
    (talk : Talk address attempts request s spoken t) :
    (spoken.connections.isEmpty = true ∧ t.nextId = s.nextId) ∨
      (spoken.connections.isEmpty = false ∧ spoken.text = request.line s.nextId ∧
        t.nextId = s.nextId + 1) := by
  cases talk with
  | refused => exact .inl ⟨rfl, rfl⟩
  | opened | continued => exact .inr ⟨rfl, rfl, rfl⟩

theorem Conversation.numbered {s t : Stand} {requests : List Request} {spoken : List Spoken}
    (conversation : Conversation address attempts s requests spoken t) (k : Nat)
    {said : Request × Spoken} (here : (sentRequests requests spoken)[k]? = some said) :
    said.2.text = said.1.line (s.nextId + UInt64.ofNat k) := by
  induction conversation generalizing k with
  | nil s => cases here
  | @cons s t u request requests spoken others talk rest ih =>
    rw [sentRequests, List.zip_cons_cons, List.filter_cons] at here
    obtain ⟨unsent, same⟩ | ⟨sent, text, next⟩ := talk.numbered
    · rw [unsent] at here
      rw [← same]
      exact ih k here
    · rw [sent] at here
      cases k with
      | zero =>
        cases here
        rw [text]
        congr 1
        exact (UInt64.add_zero _).symm
      | succ k =>
        rw [ih k here, next, UInt64.ofNat_add, UInt64.add_assoc, UInt64.add_comm 1]
        rfl

end

end BackupConsole.Simulation
