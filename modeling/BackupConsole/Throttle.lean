set_option autoImplicit false

namespace BackupConsole

structure Throttle where
  interval : Nat
  last : Option Nat := none
deriving DecidableEq, Repr

namespace Throttle

def passes (t : Throttle) (now : Nat) : Bool × Throttle :=
  match t.last with
  | some last => if t.interval ≤ now - last then (true, { t with last := some now }) else (false, t)
  | none => (true, { t with last := some now })

def reset (t : Throttle) : Throttle := { t with last := none }

end Throttle

end BackupConsole
