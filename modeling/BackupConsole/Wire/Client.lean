import BackupConsole.Text.Pieces
import BackupConsole.Wire.Answer
import BackupConsole.Wire.ResultLine

/-!
# Reading an answer from a connection

The lines that follow a request are read one after another until one of them completes the answer
or ends it with a failure. After a failure of the connection or of the protocol the connection
cannot be used any more, because lines of the old answer may still follow; after a rejection it can.
-/

set_option autoImplicit false

namespace BackupConsole.Wire

open Text

def byteLines (bytes : List UInt8) : List (List UInt8) := splitAfter 10 bytes

inductive Reading where
  | blank
  /-- Possibly a row; `last` completes the answer. -/
  | row (fields : Option Fields) (last : Bool)
  | failed (failure : Failure)
deriving Repr

def Reading.ofLine (id : UInt64) (line : ResultLine) : Reading :=
  if line.id ≠ id then .failed (.communication (.strayLine line.id id))
  else if line.code ≠ 0 then .failed line.toFailure
  else if line.data.isEmpty then .row none line.completed
  else
    match Fields.parse line.data with
    | .error fault => .failed (.communication fault)
    | .ok fields => .row (some fields) line.completed

def Reading.ofText (id : UInt64) (text : String) : Reading :=
  if (trim text.toList).isEmpty then .blank
  else
    match ResultLine.parse text with
    | .error fault => .failed (.communication fault)
    | .ok line => Reading.ofLine id line

def Reading.ofBytes (id : UInt64) (bytes : List UInt8) : Reading :=
  match String.fromUTF8? ⟨bytes.toArray⟩ with
  | none => .failed (.connection "stream did not contain valid UTF-8")
  | some text => .ofText id text

def closedByServer : Failure := .connection "connection closed by server"

/-- The answer to request `id` in the lines of a connection, and the lines after it. -/
def readAnswer (id : UInt64) : List (List UInt8) → Answer × List (List UInt8)
  | [] => (.failed closedByServer, [])
  | line :: rest =>
    match Reading.ofBytes id line with
    | .blank => readAnswer id rest
    | .failed failure => (.failed failure, rest)
    | .row fields last =>
      if last then ({ rows := fields.toList }, rest)
      else
        let (answer, rest) := readAnswer id rest
        ({ answer with rows := fields.toList ++ answer.rows }, rest)

def keepsConnection : Except Failure Unit → Bool
  | .ok () => true
  | .error (.rejected _ _ _) => true
  | .error _ => false

theorem flatten_byteLines (bytes : List UInt8) : (byteLines bytes).flatten = bytes :=
  flatten_splitAfter 10 bytes

end BackupConsole.Wire
