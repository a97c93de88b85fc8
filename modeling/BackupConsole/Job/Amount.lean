import BackupConsole.Number.Binary64

set_option autoImplicit false

namespace BackupConsole.Job

open Number

/-- The units above the byte, the largest first, with their sizes as powers of two. -/
def dataUnits : List (Nat × String) := [(40, "TB"), (30, "GB"), (20, "MB"), (10, "KB")]

def bytesText (bytes : UInt64) : String :=
  match dataUnits.find? fun (exponent, _) => Nat.pow 2 exponent ≤ bytes.toNat with
  | some (exponent, unit) =>
    (Binary64.ofRatio (Binary64.nearestWhole bytes.toNat) (Nat.pow 2 exponent)).toTenths ++ " " ++ unit
  | none => toString bytes.toNat ++ " B"

def durationText (seconds : UInt64) : String :=
  let n := seconds.toNat
  String.ofList (padded 2 (n / 3600) ++ ':' :: padded 2 (n % 3600 / 60) ++ ':' :: padded 2 (n % 60))

end BackupConsole.Job
