import BackupConsole.Text.Pieces
import BackupConsole.Wire.Fields

set_option autoImplicit false

namespace BackupConsole.Wire

open Text Number

structure ResultLine where
  id : UInt64
  completed : Bool
  code : UInt32
  data : String
deriving DecidableEq, Repr

namespace ResultLine

def readCompleted : List Char → Option Bool
  | ['0'] => some false
  | ['1'] => some true
  | _ => none

def read? (line : List Char) : Option ResultLine :=
  let (first, rest) := cut ' ' (dropEndWhile (fun c => c = '\r' || c = '\n') line)
  let (second, rest) := cut ' ' (rest.getD [])
  let (third, rest) := cut ' ' (rest.getD [])
  match readUInt64 first, readCompleted second, readUInt32 third with
  | some id, some completed, some code =>
    some ⟨id, completed, code, String.ofList (trim (rest.getD []))⟩
  | _, _, _ => none

def parse (line : String) : Except Fault ResultLine :=
  match read? line.toList with
  | some result => .ok result
  | none => .error (.malformedLine line)

def encode (l : ResultLine) : String :=
  let head :=
    toString l.id.toNat ++ (if l.completed then " 1 " else " 0 ") ++ toString l.code.toNat
  if l.data.isEmpty then head ++ "\n" else head ++ " " ++ l.data ++ "\n"

/-- The rejection that a line reports. Data with a `message` or an `errno` field is taken apart, any
other data is passed on as it is. -/
def toFailure (l : ResultLine) : Failure :=
  let plain := Failure.rejected l.code 0 l.data
  match Fields.parse l.data with
  | .ok m =>
    if m.contains "message" || m.contains "errno" then
      .rejected l.code (m.int "errno" 0) (m.string "message" "")
    else plain
  | .error _ => plain

end ResultLine

end BackupConsole.Wire
