import BackupConsole.Text.Hex
import BackupConsole.Config.Value

set_option autoImplicit false

namespace BackupConsole.Toml

open Text Number Config

def moreDigits (isDigit : Char → Bool) : List Char → List Char × List Char
  | [] => ([], [])
  | [c] => if isDigit c then ([c], []) else ([], [c])
  | c :: d :: rest =>
    if isDigit c then
      let (digits, after) := moreDigits isDigit (d :: rest)
      (c :: digits, after)
    else if c = '_' && isDigit d then
      let (digits, after) := moreDigits isDigit rest
      (d :: digits, after)
    else ([], c :: d :: rest)

def digits? (isDigit : Char → Bool) : List Char → Option (List Char × List Char)
  | [] => none
  | c :: rest =>
    if isDigit c then
      let (digits, after) := moreDigits isDigit rest
      some (c :: digits, after)
    else none

def sign : List Char → List Char × List Char
  | '+' :: rest => (['+'], rest)
  | '-' :: rest => (['-'], rest)
  | s => ([], s)

def wholePart? (s : List Char) : Option (List Char × List Char) :=
  let (mark, rest) := sign s
  match rest with
  | '0' :: after => some (mark ++ ['0'], after)
  | _ => (digits? Char.isDigit rest).map fun (digits, after) => (mark ++ digits, after)

def isDigitOf (base : Nat) (c : Char) : Bool := (hexValue? c).any (· < base)

/-- The number in a base, and what follows; none if it is above the range. -/
def radixNumber? (base : Nat) (s : List Char) : Option (Value × List Char) :=
  (digits? (isDigitOf base) s).bind fun (digits, after) =>
    let n := digits.foldl (fun n c => base * n + (hexValue? c).getD 0) 0
    if n < Nat.pow 2 63 then some (.signed (Int64.ofNat n), after) else none

def integer? : List Char → Option (Value × List Char)
  | '0' :: 'x' :: rest => radixNumber? 16 rest
  | '0' :: 'o' :: rest => radixNumber? 8 rest
  | '0' :: 'b' :: rest => radixNumber? 2 rest
  | s => (wholePart? s).bind fun (digits, after) => (readInt64 digits).map (.signed ·, after)

def fraction? : List Char → Option (List Char × List Char)
  | '.' :: rest => (digits? Char.isDigit rest).map fun (digits, after) => ('.' :: digits, after)
  | _ => none

def exponent? : List Char → Option (List Char × List Char)
  | [] => none
  | mark :: rest =>
    if mark = 'e' || mark = 'E' then
      let (sign, rest) := sign rest
      (digits? Char.isDigit rest).map fun (digits, after) => ('e' :: sign ++ digits, after)
    else none

def fractionalPart? (s : List Char) : Option (List Char × List Char) :=
  match fraction? s with
  | none => exponent? s
  | some (fraction, after) =>
    match exponent? after with
    | none => some (fraction, after)
    | some (exponent, after) => some (fraction ++ exponent, after)

def decimal? (s : List Char) : Option (Value × List Char) :=
  (wholePart? s).bind fun (whole, rest) =>
    (fractionalPart? rest).bind fun (fractional, after) =>
      (Binary64.ofText? (whole ++ fractional)).bind fun x =>
        if x.isInfinite && !x.isNegative then none else some (.float x, after)

def namedNumber? (s : List Char) : Option (Value × List Char) :=
  let (mark, rest) := sign s
  let name := rest.take 3
  if name = "inf".toList || name = "nan".toList then
    (Binary64.ofText? (mark ++ name)).map (.float ·, rest.drop 3)
  else none

def number? (s : List Char) : Option (Value × List Char) :=
  ((decimal? s).or (namedNumber? s)).or (integer? s)

end BackupConsole.Toml
