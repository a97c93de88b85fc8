import BackupConsole.Text.Hex

set_option autoImplicit false

namespace BackupConsole.Json

open Text

inductive Value where
  | text (s : String)
  | number (n : Int)
  | truth (b : Bool)
  | list (items : List Value)
  | object (members : List (String × Value))
deriving Repr

def escapedChar (c : Char) : List Char :=
  match c with
  | '\x22' => ['\\', '\x22']
  | '\\' => ['\\', '\\']
  | '\x08' => ['\\', 'b']
  | '\x0c' => ['\\', 'f']
  | '\n' => ['\\', 'n']
  | '\r' => ['\\', 'r']
  | '\t' => ['\\', 't']
  | c => if c.toNat < 32 then '\\' :: 'u' :: '0' :: '0' :: hexByte (UInt8.ofNat c.toNat) else [c]

def quoted (s : String) : List Char :=
  '\x22' :: (s.toList.flatMap escapedChar ++ ['\x22'])

def newLine (level : Nat) : List Char := '\n' :: List.replicate (2 * level) ' '

mutual

def Value.printed (level : Nat) : Value → List Char
  | .text s => quoted s
  | .number n => (toString n).toList
  | .truth b => (if b then "true" else "false").toList
  | .list [] => ['[', ']']
  | .list (item :: items) =>
    '[' :: newLine (level + 1) ++ item.printed (level + 1) ++ printedItems (level + 1) items ++
      newLine level ++ [']']
  | .object [] => ['\x7b', '\x7d']
  | .object ((name, v) :: members) =>
    '\x7b' :: newLine (level + 1) ++ quoted name ++ [':', ' '] ++ v.printed (level + 1) ++
      printedMembers (level + 1) members ++ newLine level ++ ['\x7d']

def printedItems (level : Nat) : List Value → List Char
  | [] => []
  | item :: items => ',' :: newLine level ++ item.printed level ++ printedItems level items

def printedMembers (level : Nat) : List (String × Value) → List Char
  | [] => []
  | (name, v) :: members =>
    ',' :: newLine level ++ quoted name ++ [':', ' '] ++ v.printed level ++
      printedMembers level members

end

def Value.pretty (v : Value) : String := String.ofList (v.printed 0)

end BackupConsole.Json
