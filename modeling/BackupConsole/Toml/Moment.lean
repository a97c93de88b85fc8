import BackupConsole.Number.Integer

set_option autoImplicit false

namespace BackupConsole.Toml

open Number

def fixedNumber? (count : Nat) (s : List Char) : Option (Nat × List Char) :=
  let digits := s.take count
  if digits.length < count then none else (readDigits digits).map (·, s.drop count)

def twoDigits? (low high : Nat) (s : List Char) : Option (Nat × List Char) :=
  (fixedNumber? 2 s).filter fun (n, _) => low ≤ n ∧ n ≤ high

def after? (c : Char) : List Char → Option (List Char)
  | [] => none
  | x :: rest => if x = c then some rest else none

def daysOfMonth (year month : Nat) : Nat :=
  if month = 2 then
    if year % 4 = 0 ∧ (year % 100 ≠ 0 ∨ year % 400 = 0) then 29 else 28
  else if [4, 6, 9, 11].contains month then 30
  else 31

def afterDate? (s : List Char) : Option (List Char) := do
  let (year, s) ← fixedNumber? 4 s
  let s ← after? '-' s
  let (month, s) ← twoDigits? 1 12 s
  let s ← after? '-' s
  let (_, s) ← twoDigits? 1 (daysOfMonth year month) s
  some s

def skipFraction : List Char → List Char
  | '.' :: c :: rest => if c.isDigit then rest.dropWhile Char.isDigit else '.' :: c :: rest
  | s => s

def afterHourMinute? (s : List Char) : Option (List Char) := do
  let (_, s) ← twoDigits? 0 23 s
  let s ← after? ':' s
  let (_, s) ← twoDigits? 0 59 s
  some s

def afterTime? (s : List Char) : Option (List Char) := do
  let s ← afterHourMinute? s
  let s ← after? ':' s
  let (_, s) ← twoDigits? 0 60 s
  some (skipFraction s)

def skipOffset : List Char → List Char
  | [] => []
  | c :: rest =>
    if c = 'Z' || c = 'z' then rest
    else if c = '+' || c = '-' then (afterHourMinute? rest).getD (c :: rest)
    else c :: rest

def skipTime : List Char → List Char
  | [] => []
  | c :: rest =>
    if c = 'T' || c = 't' || c = ' ' then ((afterTime? rest).map skipOffset).getD (c :: rest)
    else c :: rest

/-- A date, a time or both as text, and what follows. -/
def moment? (s : List Char) : Option (List Char × List Char) :=
  let after :=
    match afterDate? s with
    | some rest => some (skipTime rest)
    | none => afterTime? s
  after.map fun rest => (s.take (s.length - rest.length), rest)

end BackupConsole.Toml
