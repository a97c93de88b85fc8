import BackupConsole.Number.Integer

set_option autoImplicit false

namespace BackupConsole.Wire

open Number

structure Address where
  host : String
  number : UInt16
deriving DecidableEq, Repr

def Address.parse (s : String) : Except String Address :=
  let reversed := s.toList.reverse
  let last := reversed.takeWhile (· ≠ ':')
  match reversed.dropWhile (· ≠ ':') with
  | [] => .error "invalid socket address"
  | _ :: host =>
    match readUInt16 last.reverse with
    | none => .error "invalid port value"
    | some number => .ok ⟨String.ofList host.reverse, number⟩

end BackupConsole.Wire
