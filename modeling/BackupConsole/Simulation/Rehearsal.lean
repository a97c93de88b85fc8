import BackupConsole.Polling.Poll
import BackupConsole.Simulation.Server

set_option autoImplicit false

namespace BackupConsole.Simulation

open Wire Polling

/-- A simulated server and what stands before it. -/
structure Rehearsal where
  server : Server := {}
  /-- The debug level and the text of each call, the oldest first. -/
  noted : List String := []
  replies : List (String × Answer) := []
  /-- The selection that comes while the next call of a name is under way. -/
  selections : List (String × Option String) := []
  now : Int64 := 0
deriving Inhabited

namespace Rehearsal

def setReply (r : Rehearsal) (command : String) (answer : Answer) : Rehearsal :=
  { r with replies := (command, answer) :: r.replies.filter fun reply => reply.1 != command }

def dropReply (r : Rehearsal) (command : String) : Rehearsal :=
  { r with replies := r.replies.filter fun reply => reply.1 != command }

def selectDuring (r : Rehearsal) (command : String) (uuid : Option String) : Rehearsal :=
  { r with
    selections := (command, uuid) :: r.selections.filter fun entry => entry.1 != command }

def serve (call : Call) (r : Rehearsal) : Answer × Rehearsal :=
  let r := { r with noted := r.noted ++ [toString call.level ++ " " ++ call.request.text] }
  match r.replies.lookup call.request.name with
  | some answer => (answer, r)
  | none =>
    let (answer, server) := r.server.answer r.now call.request
    (answer, { r with server })

def serveMeanwhile (call : Call) (r : Rehearsal) (p : Poll) : Answer × Rehearsal × Poll :=
  let (answer, r) := r.serve call
  match r.selections.lookup call.request.name with
  | none => (answer, r, p)
  | some uuid =>
    let selections := r.selections.filter fun entry => entry.1 != call.request.name
    (answer, { r with selections }, { p with board := (p.board.select uuid).2 })

end Rehearsal

end BackupConsole.Simulation
