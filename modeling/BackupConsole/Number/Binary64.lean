import BackupConsole.Number.Round
import BackupConsole.Number.Integer

/-!
# Binary floating point numbers of 64 bits

A number is kept as its bit pattern: one sign bit, eleven exponent bits and 52 fraction bits. All
arithmetic is exact arithmetic on natural numbers followed by one rounding to nearest, ties to even.
A decimal text is read that way, and a number is printed with one decimal place that way.
-/

set_option autoImplicit false

namespace BackupConsole.Number

structure Binary64 where
  bits : UInt64
deriving DecidableEq, Repr, Inhabited

namespace Binary64

def infinityBits : Nat := 0x7FF0000000000000

def zero : Binary64 := ⟨0⟩
def nan : Binary64 := ⟨0x7FF8000000000000⟩

def isNegative (x : Binary64) : Bool := Nat.pow 2 63 ≤ x.bits.toNat

def magnitude (x : Binary64) : Nat := x.bits.toNat % Nat.pow 2 63

def isNaN (x : Binary64) : Bool := infinityBits < x.magnitude
def isInfinite (x : Binary64) : Bool := x.magnitude == infinityBits

def negate (x : Binary64) : Binary64 := ⟨x.bits ^^^ 0x8000000000000000⟩

/-- `n / d` scaled by `2 ^ -e`, as a numerator and a denominator. -/
def scaled (n d : Nat) (e : Int) : Nat × Nat :=
  if 0 ≤ e then (n, d * Nat.pow 2 e.toNat) else (n * Nat.pow 2 (-e).toNat, d)

/-- The exponent of the last fraction bit of the double nearest to `n / d`. -/
def unitExponent (n d : Nat) : Int :=
  let e := max ((n.log2 : Int) - (d.log2 : Int) - 53) (-1074)
  let (a, b) := scaled n d e
  if Nat.pow 2 53 ≤ a / b then e + 1 else e

def ofRatio (n d : Nat) : Binary64 :=
  if n = 0 then zero
  else
    let e := unitExponent n d
    let (a, b) := scaled n d e
    let significand := roundHalfEven a b
    let bits :=
      if significand < Nat.pow 2 52 then significand
      else (e + 1075).toNat * Nat.pow 2 52 + (significand - Nat.pow 2 52)
    ⟨UInt64.ofNat (min bits infinityBits)⟩

def ofNat (n : Nat) : Binary64 := ofRatio n 1

def ofInt (n : Int) : Binary64 :=
  if n < 0 then (ofNat n.natAbs).negate else ofNat n.natAbs

def toRatio (x : Binary64) : Nat × Nat :=
  let fraction := x.magnitude % Nat.pow 2 52
  let exponent := x.magnitude / Nat.pow 2 52
  if exponent = 0 then (fraction, Nat.pow 2 1074)
  else if 1075 ≤ exponent then ((fraction + Nat.pow 2 52) * Nat.pow 2 (exponent - 1075), 1)
  else (fraction + Nat.pow 2 52, Nat.pow 2 (1075 - exponent))

/-- The whole part, kept within 0 and 2^64 - 1; 0 for what is not a number. -/
def toUInt64 (x : Binary64) : UInt64 :=
  if x.isNaN || x.isNegative then 0
  else if x.isInfinite then 0xFFFFFFFFFFFFFFFF
  else
    let (n, d) := x.toRatio
    UInt64.ofNat (min (n / d) (Nat.pow 2 64 - 1))

def toTenths (x : Binary64) : String :=
  if x.isNaN then "NaN"
  else
    let sign := if x.isNegative then "-" else ""
    if x.isInfinite then sign ++ "inf"
    else
      let (n, d) := x.toRatio
      let tenths := roundHalfEven (10 * n) d
      sign ++ toString (tenths / 10) ++ "." ++ toString (tenths % 10)

/-- The double nearest to `digits * 10 ^ exponent`, where `digits` has `count` decimal digits. -/
def ofDecimal (digits count : Nat) (exponent : Int) : Binary64 :=
  if digits = 0 then zero
  else if 400 < exponent + count then ⟨UInt64.ofNat infinityBits⟩
  else if exponent + count < -400 then zero
  else if 0 ≤ exponent then ofRatio (digits * Nat.pow 10 exponent.toNat) 1
  else ofRatio digits (Nat.pow 10 (-exponent).toNat)

/-- The part of a number after its sign: digits, a point with more digits, and an exponent. -/
def readUnsigned (s : List Char) : Option Binary64 :=
  let whole := s.takeWhile Char.isDigit
  let rest := s.dropWhile Char.isDigit
  let (fraction, rest) :=
    match rest with
    | '.' :: r => (r.takeWhile Char.isDigit, r.dropWhile Char.isDigit)
    | r => ([], r)
  let digits := whole ++ fraction
  let exponent : Option Int :=
    match rest with
    | [] => some 0
    | mark :: r => if mark = 'e' || mark = 'E' then readInt r else none
  if digits.isEmpty then none
  else
    exponent.map fun e =>
      let significant := digits.dropWhile (· == '0')
      ofDecimal (Nat.ofDigitChars 10 significant 0) significant.length (e - fraction.length)

def ofText? (s : List Char) : Option Binary64 :=
  let (negative, rest) :=
    match s with
    | '-' :: r => (true, r)
    | '+' :: r => (false, r)
    | r => (false, r)
  let name := rest.map Char.toLower
  let value :=
    if name = "nan".toList then some nan
    else if name = "inf".toList || name = "infinity".toList then some ⟨UInt64.ofNat infinityBits⟩
    else readUnsigned rest
  value.map fun x => if negative then x.negate else x

def nearestWhole (n : Nat) : Nat :=
  let (a, b) := (ofNat n).toRatio
  a / b

/-- `part` of `total` in percent, at most 100; each of the three steps rounds once. -/
def percent (part total : UInt64) : Binary64 :=
  if total = 0 then zero
  else
    let hundredfold := nearestWhole (100 * nearestWhole part.toNat)
    let quotient := ofRatio hundredfold (nearestWhole total.toNat)
    let whole := ofNat 100
    if quotient.bits ≤ whole.bits then quotient else whole

end Binary64

end BackupConsole.Number
