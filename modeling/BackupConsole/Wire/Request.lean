set_option autoImplicit false

namespace BackupConsole.Wire

structure Request where
  name : String
  args : List (String × String) := []
deriving DecidableEq, Repr, Inhabited

namespace Request

def arg (r : Request) (key value : String) : Request := { r with args := r.args ++ [(key, value)] }

def flag (r : Request) (key : String) (value : Bool) : Request :=
  r.arg key (if value then "yes" else "no")

def get? (r : Request) (key : String) : Option String := r.args.lookup key

def text (r : Request) : String :=
  r.args.foldl (fun text (key, value) => text ++ " " ++ key ++ "=" ++ value) r.name

def line (r : Request) (id : UInt64) : String := toString id.toNat ++ " " ++ r.text ++ "\n"

end Request

end BackupConsole.Wire
