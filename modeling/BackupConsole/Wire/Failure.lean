set_option autoImplicit false

namespace BackupConsole.Wire

inductive Fault where
  | malformedField (key data : String)
  | openQuote (key : String)
  | missingField (key : String)
  | malformedLine (line : String)
  | unknownWeekDay (name : String)
  | unknownRunState (name : String)
  | strayLine (id expected : UInt64)
  | other (text : String)
deriving DecidableEq, Repr

def Fault.message : Fault → String
  | .malformedField key data => "malformed result field '" ++ key ++ "' in '" ++ data ++ "'"
  | .openQuote key => "unterminated string for field '" ++ key ++ "'"
  | .missingField key => "missing result field '" ++ key ++ "'"
  | .malformedLine line => "malformed result line '" ++ line ++ "'"
  | .unknownWeekDay name => "unknown week day '" ++ name ++ "'"
  | .unknownRunState name => "unknown server state '" ++ name ++ "'"
  | .strayLine id expected =>
    "unexpected result id " ++ toString id.toNat ++ " (expected " ++ toString expected.toNat ++ ")"
  | .other text => text

inductive Failure where
  | connection (reason : String)
  | communication (fault : Fault)
  | rejected (code : UInt32) (number : Int) (data : String)
deriving DecidableEq, Repr

def knownCodes : List (UInt32 × String) :=
  [ (1, "insufficient memory"),
    (2, "unknown command"),
    (3, "invalid argument"),
    (4, "authorization failed"),
    (5, "server busy"),
    (10, "job not found"),
    (11, "job already running"),
    (12, "job not running"),
    (13, "schedule not found"),
    (14, "invalid crypt password"),
    (15, "crypt password required"),
    (16, "volume not available"),
    (17, "storage not available"),
    (18, "operation aborted") ]

/-- The wording of a rejection: the text of the code, then the data and a system error number other
than 0, where there are any. -/
def rejectionText (code : UInt32) (number : Int) (data : String) : String :=
  let text := (knownCodes.lookup code).getD ("server error " ++ toString code.toNat)
  let text := if data.isEmpty then text else text ++ ": " ++ data
  if number = 0 then text else text ++ " (error " ++ toString number ++ ")"

def Failure.message : Failure → String
  | .connection reason => "not connected to server: " ++ reason
  | .communication fault => "communication error: " ++ fault.message
  | .rejected code number data => rejectionText code number data

end BackupConsole.Wire
