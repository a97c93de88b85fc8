import BackupConsole.Number.Integer

set_option autoImplicit false

namespace BackupConsole.Time

open Number

structure DateTime where
  year : Nat
  month : Nat
  day : Nat
  hour : Nat
  minute : Nat
  second : Nat
deriving DecidableEq, Repr

def daysPerEra : Nat := 146097

/-- The days from the first of March of year 0 to the start of 1970. -/
def epochDay : Nat := 719468

/-- The date of a day counted from the start of 1970, as year, month and day of the month. -/
def dateOfDay (days : Nat) : Nat × Nat × Nat :=
  let dayOfEra := (days + epochDay) % daysPerEra
  let era := (days + epochDay) / daysPerEra
  let yearOfEra := (dayOfEra - dayOfEra / 1460 + dayOfEra / 36524 - dayOfEra / 146096) / 365
  let dayOfYear := dayOfEra - (365 * yearOfEra + yearOfEra / 4 - yearOfEra / 100)
  let monthFromMarch := (5 * dayOfYear + 2) / 153
  let day := dayOfYear - (153 * monthFromMarch + 2) / 5 + 1
  let month := if monthFromMarch < 10 then monthFromMarch + 3 else monthFromMarch - 9
  let year := era * 400 + yearOfEra + (if month ≤ 2 then 1 else 0)
  (year, month, day)

def DateTime.ofSeconds (seconds : Nat) : DateTime :=
  let (year, month, day) := dateOfDay (seconds / 86400)
  let rest := seconds % 86400
  ⟨year, month, day, rest / 3600, rest % 3600 / 60, rest % 60⟩

def DateTime.text (t : DateTime) : String :=
  let year := if 9999 < t.year then '+' :: padded 4 t.year else padded 4 t.year
  String.ofList <|
    year ++ '-' :: padded 2 t.month ++ '-' :: padded 2 t.day ++ ' ' :: padded 2 t.hour ++
      ':' :: padded 2 t.minute ++ ':' :: padded 2 t.second

/-- The last second that the calendar covers, the end of the year 262142. -/
def lastSecond : Int := 8210266876799

def dateText? (seconds : Int64) : Option String :=
  let n := seconds.toInt
  if n < 0 || lastSecond < n then none else some (DateTime.ofSeconds n.toNat).text

def shownMoment (date? : Int64 → Option String) (seconds : Int64) : String :=
  if seconds ≤ 0 then "-" else (date? seconds).getD "-"

def momentText (seconds : Int64) : String := shownMoment dateText? seconds

end BackupConsole.Time
