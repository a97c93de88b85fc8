set_option autoImplicit false

namespace BackupConsole.Text

def hexDigit (n : Nat) : Char :=
  if n < 10 then Char.ofNat (48 + n) else Char.ofNat (87 + n)

def hexValue? (c : Char) : Option Nat :=
  let n := c.toNat
  if 48 ≤ n && n ≤ 57 then some (n - 48)
  else if 97 ≤ n && n ≤ 102 then some (n - 87)
  else if 65 ≤ n && n ≤ 70 then some (n - 55)
  else none

def hexByte (b : UInt8) : List Char :=
  [hexDigit (b.toNat / 16), hexDigit (b.toNat % 16)]

def toHex (s : String) : String :=
  String.ofList (s.toUTF8.data.toList.flatMap hexByte)

def hexPair? (high low : Char) : Option UInt8 :=
  let lowValue := hexValue? low
  if high = '+' then lowValue.map UInt8.ofNat
  else
    match hexValue? high, lowValue with
    | some h, some l => some (UInt8.ofNat (16 * h + l))
    | _, _ => none

def hexBytes? : List Char → Option (List UInt8)
  | [] => some []
  | high :: low :: rest =>
    match hexPair? high low, hexBytes? rest with
    | some b, some bs => some (b :: bs)
    | _, _ => none
  | [_] => none

/-- The text whose bytes are written as hexadecimal digits; none if they are not UTF-8. -/
def ofHex? (s : String) : Option String :=
  (hexBytes? s.toList).bind fun bytes => String.fromUTF8? ⟨bytes.toArray⟩

end BackupConsole.Text
