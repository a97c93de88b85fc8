import BackupConsole.Toml.Quoted
import BackupConsole.Toml.Numeral
import BackupConsole.Toml.Moment
import BackupConsole.Toml.Tree

/-!
# Settings files

A file is a list of lines, each with a name and its value or with the header of a table. Lists and
inline tables nest at most 79 deep, and a dotted key has at most 79 parts. `read?` gives the
settings of a text that is well formed from its first line to its last.
-/

set_option autoImplicit false

namespace BackupConsole.Toml

open Config

/-- The greatest depth of nested values, and the greatest number of parts of a key. -/
def depthLimit : Nat := 79

def simpleKey? : List Char → Option (String × List Char)
  | '\x22' :: rest => (escapedText rest).map fun (text, after) => (String.ofList text, after)
  | '\x27' :: rest => (literalText rest).map fun (text, after) => (String.ofList text, after)
  | s =>
    let key := s.takeWhile isNameChar
    if key.isEmpty then none else some (String.ofList key, s.dropWhile isNameChar)

def keyPath? : Nat → List Char → Option (List String × String × List Char)
  | 0, _ => none
  | limit + 1, s =>
    (simpleKey? (skipSpaces s)).bind fun (part, after) =>
      match skipSpaces after with
      | '.' :: rest =>
        (keyPath? limit rest).map fun (path, last, after) => (part :: path, last, after)
      | after => some ([], part, after)

def scalar? (s : List Char) : Option (Value × List Char) :=
  match s with
  | [] => none
  | c :: _ =>
    if c = '\x22' || c = '\x27' then
      (quotedText s).map fun (text, after) => (.text (String.ofList text), after)
    else if "true".toList.isPrefixOf s then some (.boolean true, s.drop 4)
    else if "false".toList.isPrefixOf s then some (.boolean false, s.drop 5)
    else
      match moment? s with
      | some (text, after) => some (.moment (String.ofList text), after)
      | none => number? s

def items? {α : Type} (item : List Char → Option (α × List Char)) :
    Nat → List Char → Option (List α × List Char)
  | 0, _ => none
  | fuel + 1, s =>
    match skipGaps s with
    | ']' :: rest => some ([], rest)
    | s =>
      (item s).bind fun (x, after) =>
        match skipGaps after with
        | ']' :: rest => some ([x], rest)
        | ',' :: rest => (items? item fuel rest).map fun (xs, after) => (x :: xs, after)
        | _ => none

structure Assignment where
  path : List String
  key : String
  value : Value

def assignment? (item : List Char → Option (Value × List Char)) (s : List Char) :
    Option (Assignment × List Char) :=
  (keyPath? depthLimit s).bind fun (path, key, after) =>
    (after? '=' after).bind fun rest =>
      (item (skipSpaces rest)).map fun (v, after) => (⟨path, key, v⟩, after)

def assignments? (item : List Char → Option (Value × List Char)) :
    Nat → List Char → Option (List Assignment × List Char)
  | 0, _ => none
  | fuel + 1, s =>
    (assignment? item s).bind fun (first, after) =>
      match skipSpaces after with
      | '\x7d' :: rest => some ([first], rest)
      | ',' :: rest => (assignments? item fuel rest).map fun (more, after) => (first :: more, after)
      | _ => none

def inlineTable? (assignments : List Assignment) : Option Value :=
  let insert? (entries : Entries) (a : Assignment) : Option Entries :=
    entries.insert? a.path a.key a.value false
  (assignments.foldlM insert? []).map fun entries => .table (entryValues entries)

/-- A value with at most `depth` levels of lists and tables in it, and what follows. -/
def value? : Nat → List Char → Option (Value × List Char)
  | 0, s => scalar? s
  | depth + 1, s =>
    match s with
    | '[' :: rest =>
      (items? (value? depth) rest.length rest).map fun (values, after) => (.list values, after)
    | '\x7b' :: rest =>
      match skipSpaces rest with
      | '\x7d' :: after => some (.table [], after)
      | _ =>
        (assignments? (value? depth) rest.length rest).bind fun (assignments, after) =>
          (inlineTable? assignments).map (·, after)
    | s => scalar? s

/-- What has been read of a file: its tables, and the path of the table that the next lines belong
to. -/
structure Draft where
  entries : Entries := []
  header : List String := []

def Draft.assign? (draft : Draft) (a : Assignment) : Option Draft :=
  (draft.entries.update? false (Entries.insert? a.path a.key a.value) draft.header false).map
    fun entries => ⟨entries, draft.header⟩

def Draft.openTable? (draft : Draft) (path : List String) (key : String) : Option Draft :=
  (draft.entries.openTable? path key).map fun entries => ⟨entries, path ++ [key]⟩

def Draft.openElement? (draft : Draft) (path : List String) (key : String) : Option Draft :=
  (draft.entries.openElement? path key).map fun entries => ⟨entries, path ++ [key]⟩

def line? (draft : Draft) (s : List Char) : Option (Draft × List Char) := do
  match s with
  | '[' :: '[' :: rest =>
    let (path, key, after) ← keyPath? depthLimit rest
    let rest ← (after? ']' after).bind (after? ']')
    let draft ← draft.openElement? path key
    (lineEnd? rest).map (draft, ·)
  | '[' :: rest =>
    let (path, key, after) ← keyPath? depthLimit rest
    let rest ← after? ']' after
    let draft ← draft.openTable? path key
    (lineEnd? rest).map (draft, ·)
  | s =>
    if s.head?.any fun c => c = '#' || c = '\n' || c = '\r' then (lineEnd? s).map (draft, ·)
    else
      let (assignment, rest) ← assignment? (value? depthLimit) s
      let draft ← draft.assign? assignment
      (lineEnd? rest).map (draft, ·)

def lines? : Nat → Draft → List Char → Option Draft
  | 0, draft, s => if (skipSpaces s).isEmpty then some draft else none
  | limit + 1, draft, s =>
    match skipSpaces s with
    | [] => some draft
    | s => (line? draft s).bind fun (draft, rest) => lines? limit draft rest

/-- The settings of a file; none if it is not well formed. A byte order mark at the start is
dropped. -/
def read? (text : String) : Option (List (String × Value)) :=
  let s := text.toList
  let s := if s.head? = some '\uFEFF' then s.drop 1 else s
  (lines? s.length {} s).map fun draft => entryValues draft.entries

end BackupConsole.Toml
