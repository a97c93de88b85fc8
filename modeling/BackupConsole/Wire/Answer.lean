import BackupConsole.Wire.Fields
import BackupConsole.Wire.Request

set_option autoImplicit false

namespace BackupConsole.Wire

structure Call where
  level : Nat
  request : Request
deriving DecidableEq, Repr

def pollLevel : Nat := 2

def commandLevel : Nat := 1

structure Answer where
  rows : List Fields := []
  outcome : Except Failure Unit := .ok ()
deriving Repr, Inhabited

namespace Answer

def failed (failure : Failure) : Answer := { outcome := .error failure }

/-- Rows decoded one after another; a row that cannot be decoded ends the answer. -/
def ofRows : List String → Answer
  | [] => {}
  | data :: rest =>
    match Fields.parse data with
    | .error fault => failed (.communication fault)
    | .ok row =>
      let answer := ofRows rest
      { answer with rows := row :: answer.rows }

def merged (a : Answer) : Except Failure Fields :=
  match a.outcome with
  | .error failure => .error failure
  | .ok () => .ok (a.rows.foldl Fields.extend .empty)

end Answer

end BackupConsole.Wire
