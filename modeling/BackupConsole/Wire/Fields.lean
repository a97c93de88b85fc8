import BackupConsole.Text.Ascii
import BackupConsole.Text.Blank
import BackupConsole.Number.Binary64
import BackupConsole.Wire.Failure

/-!
# Rows of named fields

A result row is a text of `key=value` fields. A value is a bare run of non-blank characters, or
stands in single or double quotes, where a backslash takes the next character literally. The reader
walks over the text once, one character at a time; `FieldReader` is what it has seen of the current
field. Typed access never fails: a missing or unreadable value gives the caller's default.
-/

set_option autoImplicit false

namespace BackupConsole.Wire

open Text Number

/-- One decoded row. The entry nearest to the front wins for its key. -/
structure Fields where
  entries : List (String × String) := []
deriving Repr, Inhabited

namespace Fields

def empty : Fields := ⟨[]⟩

def insert (m : Fields) (key value : String) : Fields := ⟨(key, value) :: m.entries⟩

def ofPairs (pairs : List (String × String)) : Fields := ⟨pairs.reverse⟩

def extend (m other : Fields) : Fields := ⟨other.entries ++ m.entries⟩

def isEmpty (m : Fields) : Bool := m.entries.isEmpty

def get? (m : Fields) (key : String) : Option String := m.entries.lookup key

def contains (m : Fields) (key : String) : Bool := (m.get? key).isSome

def agrees (m other : Fields) : Bool :=
  (m.entries ++ other.entries).all fun (key, _) => m.get? key == other.get? key

def require (m : Fields) (keys : List String) : Except Fault Unit :=
  match keys.find? fun key => !m.contains key with
  | some key => .error (.missingField key)
  | none => .ok ()

/-- The value read by `read`, blanks around it dropped; none if it is missing or unreadable. -/
def parsed? {α : Type} (m : Fields) (read : List Char → Option α) (key : String) : Option α :=
  (m.get? key).bind fun value => read (trim value.toList)

def string (m : Fields) (key default : String) : String := (m.get? key).getD default

def int (m : Fields) (key : String) (default : Int) : Int :=
  (m.parsed? (readSigned 32) key).getD default

def long (m : Fields) (key : String) (default : Int64) : Int64 :=
  (m.parsed? readInt64 key).getD default

/-- An unsigned number of 64 bits; a negative value gives the default. -/
def ulong (m : Fields) (key : String) (default : UInt64) : UInt64 :=
  (m.parsed? readUInt64 key).getD default

def double (m : Fields) (key : String) (default : Binary64) : Binary64 :=
  (m.parsed? Binary64.ofText? key).getD default

/-- One of the words for yes and no in any case; blanks around the word are not dropped. -/
def boolean (m : Fields) (key : String) (default : Bool) : Bool :=
  match m.get? key with
  | none => default
  | some value =>
    let word := lower value
    if ["1", "yes", "true", "on"].contains word then true
    else if ["0", "no", "false", "off"].contains word then false
    else default

def enumeration {α : Type} (m : Fields) (read : List Char → Option α) (key : String)
    (default : α) : α :=
  (m.parsed? read key).getD default

@[simp] theorem get?_insert (m : Fields) (key value k : String) :
    (m.insert key value).get? k = if k = key then some value else m.get? k := by
  by_cases h : k = key
  · simp [get?, insert, h]
  · have differs : (k == key) = false := beq_eq_false_iff_ne.mpr h
    simp [get?, insert, List.lookup_cons, differs, h]

theorem get?_extend (m other : Fields) (k : String) :
    (m.extend other).get? k = (other.get? k).or (m.get? k) := by
  simp [get?, extend, List.lookup_append]

end Fields

/-- What the reader has seen of the current field. Keys and values are kept in reverse. -/
inductive FieldReader where
  | between
  | inKey (key : List Char)
  | afterKey (key : List Char)
  | bare (key value : List Char)
  | quoted (mark : Char) (key value : List Char)
  | escaping (mark : Char) (key value : List Char)
deriving DecidableEq, Repr

namespace FieldReader

def isMark (c : Char) : Bool := c == '\x27' || c == '\x22'

def textOf (reversed : List Char) : String := String.ofList reversed.reverse

def step (data : String) : FieldReader → Fields → Char → Except Fault (FieldReader × Fields)
  | .between, m, c =>
    if isBlank c then .ok (.between, m)
    else if c = '=' then .error (.malformedField "" data)
    else .ok (.inKey [c], m)
  | .inKey key, m, c =>
    if c = '=' then .ok (.afterKey key, m)
    else if isBlank c then .error (.malformedField (textOf key) data)
    else .ok (.inKey (c :: key), m)
  | .afterKey key, m, c =>
    if isMark c then .ok (.quoted c key [], m)
    else if isBlank c then .ok (.between, m.insert (textOf key) "")
    else .ok (.bare key [c], m)
  | .bare key value, m, c =>
    if isBlank c then .ok (.between, m.insert (textOf key) (textOf value))
    else .ok (.bare key (c :: value), m)
  | .quoted mark key value, m, c =>
    if c = '\\' then .ok (.escaping mark key value, m)
    else if c = mark then .ok (.between, m.insert (textOf key) (textOf value))
    else .ok (.quoted mark key (c :: value), m)
  | .escaping mark key value, m, c => .ok (.quoted mark key (c :: value), m)

def finish (data : String) : FieldReader → Fields → Except Fault Fields
  | .between, m => .ok m
  | .inKey key, _ => .error (.malformedField (textOf key) data)
  | .afterKey key, m => .ok (m.insert (textOf key) "")
  | .bare key value, m => .ok (m.insert (textOf key) (textOf value))
  | .quoted _ key _, _ => .error (.openQuote (textOf key))
  | .escaping _ key _, _ => .error (.openQuote (textOf key))

def run (data : String) : FieldReader → Fields → List Char → Except Fault Fields
  | reader, m, [] => reader.finish data m
  | reader, m, c :: rest =>
    match reader.step data m c with
    | .ok (reader, m) => run data reader m rest
    | .error fault => .error fault

end FieldReader

def Fields.parse (data : String) : Except Fault Fields :=
  FieldReader.run data .between .empty data.toList

def quote (value : String) : String :=
  let escape (c : Char) : List Char := if c = '\x27' || c = '\\' then ['\\', c] else [c]
  String.ofList ('\x27' :: (value.toList.flatMap escape ++ ['\x27']))

end BackupConsole.Wire
