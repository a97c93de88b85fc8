import BackupConsole.Text.Extending
import BackupConsole.Text.Unprintable
import BackupConsole.Text.Hex

set_option autoImplicit false

namespace BackupConsole.Text

/-- The two halfwidth voicing marks of katakana, which stand beside the character before them. -/
def isVoicingMark (c : Char) : Bool :=
  c.toNat == 0xFF9E || c.toNat == 0xFF9F

def escapeByNumber (c : Char) : List Char :=
  '\\' :: 'u' :: '\x7b' :: ((Nat.toDigits 16 c.toNat).map Char.toLower ++ ['\x7d'])

def escapeChar (leading : Bool) (c : Char) : List Char :=
  match c.toNat with
  | 0 => ['\\', '0']
  | 9 => ['\\', 't']
  | 10 => ['\\', 'n']
  | 13 => ['\\', 'r']
  | 34 => ['\\', c]
  | 39 => ['\\', c]
  | 92 => ['\\', c]
  | _ =>
    if leading && isExtending c && !isVoicingMark c then escapeByNumber c
    else if isUnprintable c then escapeByNumber c
    else [c]

def escaped (s : String) : String :=
  match s.toList with
  | [] => ""
  | c :: rest => String.ofList (escapeChar true c ++ rest.flatMap (escapeChar false))

end BackupConsole.Text
