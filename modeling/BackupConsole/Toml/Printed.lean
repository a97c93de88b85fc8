import BackupConsole.Text.Hex
import BackupConsole.Text.Ascii
import BackupConsole.Config.Value
import BackupConsole.Toml.Space

set_option autoImplicit false

namespace BackupConsole.Toml

open Text Config

/-- The quotes around a text. Between double quotes a backslash starts an escape, between single
quotes there are no escapes; three of a kind may enclose several lines. -/
inductive Quoting
  | double
  | single
  | tripleDouble
  | tripleSingle
  deriving DecidableEq, Repr

def hasTriple (mark : Char) : List Char → Bool
  | [] => false
  | c :: rest => [mark, mark, mark].isPrefixOf (c :: rest) || hasTriple mark rest

/-- A text can stand between these quotes without escapes. A tab is no obstacle, though double
quotes show it as an escape. -/
def Quoting.fits : Quoting → List Char → Bool
  | .double, s => s.all isPlain && !s.contains '\\' && !s.contains '\x22'
  | .single, s => s.all isPlain && !s.contains '\x27'
  | .tripleDouble, s =>
    s.all (fun c => isPlain c || c == '\n') && !s.contains '\\' && !hasTriple '\x22' s
  | .tripleSingle, s => s.all (fun c => isPlain c || c == '\n') && !hasTriple '\x27' s

/-- The quotes that a text is written between: the first that fit, and double quotes if none do. -/
def quotingOf (s : List Char) : Quoting :=
  match [Quoting.double, .single, .tripleDouble, .tripleSingle].find? (·.fits s) with
  | some q => q
  | none => if s.contains '\n' then .tripleDouble else .double

def escapedChar (lines : Bool) (c : Char) : List Char :=
  match c with
  | '\x08' => ['\\', 'b']
  | '\t' => ['\\', 't']
  | '\n' => if lines then ['\n'] else ['\\', 'n']
  | '\x0c' => ['\\', 'f']
  | '\r' => ['\\', 'r']
  | '\x22' => ['\\', '\x22']
  | '\\' => ['\\', '\\']
  | c =>
    if isPlain c then [c] else '\\' :: 'u' :: '0' :: '0' :: upper (hexByte (UInt8.ofNat c.toNat))

/-- A text as it stands between three double quotes, after so many bare double quotes in a row. Two
in a row stay bare; the next one is escaped, so that no three of them end the text early. -/
def escapedLinesAfter (bare : Nat) : List Char → List Char
  | [] => []
  | c :: rest =>
    if c = '\x22' ∧ bare < 2 then c :: escapedLinesAfter (bare + 1) rest
    else escapedChar true c ++ escapedLinesAfter 0 rest

def quoted (s : List Char) : List Char :=
  let lineEnd := if s.contains '\n' then ['\n'] else []
  match quotingOf s with
  | .double => '\x22' :: s.flatMap (escapedChar false) ++ ['\x22']
  | .single => '\x27' :: s ++ ['\x27']
  | .tripleDouble =>
    let marks := List.replicate 3 '\x22'
    marks ++ lineEnd ++ escapedLinesAfter 0 s ++ marks
  | .tripleSingle =>
    let marks := List.replicate 3 '\x27'
    marks ++ lineEnd ++ s ++ marks

def isPrintable : Value → Bool
  | .text _ | .boolean _ => true
  | .unsigned n => decide (n.toNat < Nat.pow 2 63)
  | _ => false

def printedValue : Value → List Char
  | .text s => quoted s.toList
  | .boolean b => (if b then "true" else "false").toList
  | .unsigned n => Nat.toDigits 10 n.toNat
  | _ => []

def printedLine (key : String) (v : Value) : List Char :=
  key.toList ++ " = ".toList ++ printedValue v ++ ['\n']

def print? (layer : Layer) : Option String :=
  if layer.all fun entry => isPrintable entry.2 then
    some (String.ofList (layer.flatMap fun (key, v) => printedLine key v))
  else none

end BackupConsole.Toml
