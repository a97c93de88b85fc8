import BackupConsole.Text.Hex

set_option autoImplicit false

namespace BackupConsole.Simulation

open Text

def hexDigits : (count : Nat) → Nat → List Char
  | 0, _ => []
  | count + 1, n => hexDigits count (n / 16) ++ [hexDigit (n % 16)]

/-- The UUID of a moment in milliseconds and a random number below 2^76. -/
def timeOrderedUuid (milliseconds random : Nat) : String :=
  let moment := hexDigits 12 milliseconds
  let version := '7' :: hexDigits 3 random
  let variant := hexDigit (8 + random / Nat.pow 2 12 % 4) :: hexDigits 3 (random / Nat.pow 2 14)
  let rest := hexDigits 12 (random / Nat.pow 2 26)
  String.ofList <| ['-'].intercalate [moment.take 8, moment.drop 8, version, variant, rest]

theorem length_hexDigits (count n : Nat) : (hexDigits count n).length = count := by
  induction count generalizing n with
  | zero => rfl
  | succ count ih => simp [hexDigits, ih]

end BackupConsole.Simulation
