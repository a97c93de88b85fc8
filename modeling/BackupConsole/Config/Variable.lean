import BackupConsole.Text.Blank
import BackupConsole.Text.Pieces
import BackupConsole.Toml.Quoted
import BackupConsole.Config.Value

set_option autoImplicit false

namespace BackupConsole.Config

open Text Number Toml

/-- White space of ASCII but for the vertical tab. -/
def isAsciiBlank (c : Char) : Bool :=
  c == ' ' || c == '\t' || c == '\n' || c == '\r' || c == '\x0c'

def skipAsciiBlanks (s : List Char) : List Char := s.dropWhile isAsciiBlank

def isSeparator (c : Char) : Bool :=
  c == '\x7b' || c == '\x7d' || c == '[' || c == ']' || c == ','

def rawQuoted? : List Char → Option (List Char × List Char)
  | [] => none
  | '\x22' :: rest => some ([], rest)
  | '\\' :: c :: rest => (rawQuoted? rest).map fun (raw, after) => ('\\' :: c :: raw, after)
  | c :: rest => (rawQuoted? rest).map fun (raw, after) => (c :: raw, after)

def unescaped? (s : List Char) : Option (List Char) :=
  match s with
  | [] => some []
  | c :: rest =>
    if c = '\\' then
      (escape? rest).bind fun (x, count) => (unescaped? (rest.drop count)).map (x :: ·)
    else if isPlain c then (unescaped? rest).map (c :: ·)
    else none
termination_by s.length
decreasing_by all_goals simp only [List.length_drop, List.length_cons]; omega

def firstBytes? : Nat → List Char → Option (List Char)
  | 0, _ => some []
  | _, [] => none
  | count, c :: rest =>
    if c.utf8Size ≤ count then (firstBytes? (count - c.utf8Size) rest).map (c :: ·) else none

/-- The text that stands between double quotes. Of what is before the first escape only so many
bytes count as it has characters. -/
def quotedContent? (raw : List Char) : Option (List Char) :=
  let before := raw.takeWhile (· != '\\')
  let escaped := raw.drop before.length
  if escaped.isEmpty then unescaped? raw
  else do
    let _ ← unescaped? before
    return (← firstBytes? before.length before) ++ (← unescaped? escaped)

def variableText? (s : List Char) : Option (List Char × List Char) :=
  (rawQuoted? s).bind fun (raw, after) => (quotedContent? raw).map (·, after)

def bareValue (s : List Char) : Value :=
  match (if s.contains '.' then Binary64.ofText? s else none) with
  | some x => .float x
  | none =>
    match readUInt64 s with
    | some n => .unsigned n
    | none =>
      match readInt64 s with
      | some n => .signed n
      | none => .text (String.ofList s)

def variableKey? (s : List Char) : Option (String × List Char) :=
  match s with
  | '\x22' :: rest => (variableText? rest).map fun (text, after) => (String.ofList text, after)
  | s =>
    let key := s.takeWhile isNameChar
    if key.isEmpty then none else some (String.ofList key, s.dropWhile isNameChar)

def itemsUntil? {α : Type} (close : Char) (item : List Char → Option (α × List Char)) :
    Nat → List Char → Option (List α × List Char)
  | 0, _ => none
  | fuel + 1, s =>
    if s.head? = some close then some ([], s.drop 1)
    else
      (item s).bind fun (x, after) =>
        match after with
        | [] => none
        | c :: rest =>
          if c = ',' then (itemsUntil? close item fuel rest).map fun (xs, after) => (x :: xs, after)
          else if c = close then some ([x], rest)
          else none

def variableMember? (item : List Char → Option (Value × List Char)) (s : List Char) :
    Option ((String × Value) × List Char) :=
  (variableKey? (skipAsciiBlanks s)).bind fun (key, after) =>
    match skipAsciiBlanks after with
    | '=' :: rest => (item rest).map fun (v, after) => ((key, v), after)
    | _ => none

/-- A value with white space around it, and what follows; `fuel` bounds how deep it nests. -/
def variableValue? : Nat → List Char → Option (Value × List Char)
  | 0, _ => none
  | fuel + 1, s =>
    let s := skipAsciiBlanks s
    let found : Option (Value × List Char) :=
      if "true".toList.isPrefixOf s then some (.boolean true, s.drop 4)
      else if "false".toList.isPrefixOf s then some (.boolean false, s.drop 5)
      else
        match s with
        | '\x7b' :: rest =>
          (itemsUntil? '\x7d' (variableMember? (variableValue? fuel)) s.length rest).map
            fun (entries, after) => (.table (mergeEntries [] entries), after)
        | '[' :: rest =>
          (itemsUntil? ']' (variableValue? fuel) s.length rest).map
            fun (items, after) => (.list items, after)
        | '\x22' :: rest =>
          (variableText? rest).map fun (text, after) => (.text (String.ofList text), after)
        | '\x27' :: c :: '\x27' :: rest => some (.character c, rest)
        | '\x27' :: _ => none
        | s =>
          let bare := s.takeWhile fun c => !isSeparator c
          some (bareValue (trim bare), s.drop bare.length)
    found.map fun (v, after) => (v, skipAsciiBlanks after)

def variableValue (text : String) : Value :=
  match variableValue? (text.length + 1) text.toList with
  | some (v, []) => v
  | _ => .text text

def variableStart : List Char := "barctl_".toList

def variablePath? (name : String) : Option (List String) :=
  let name := (trim name.toList).map Char.toLower
  if variableStart.isPrefixOf name then
    let parts := pieces '.' (trim (name.drop variableStart.length))
    if parts.any List.isEmpty then none else some (parts.map String.ofList)
  else none

def nested (v : Value) : List String → Value
  | [] => v
  | key :: path => .table [(key, nested v path)]

/-- The settings of variables, later ones over earlier ones. -/
def variableEntries (environment : List (String × String)) : List (String × Value) :=
  environment.foldl
    (fun entries (name, text) =>
      match variablePath? name with
      | some (key :: path) => mergeEntry key (nested (variableValue text) path) entries
      | _ => entries)
    []

end BackupConsole.Config
