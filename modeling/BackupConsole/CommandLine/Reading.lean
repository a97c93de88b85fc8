import BackupConsole.Text.Pieces
import BackupConsole.CommandLine.Argument

/-!
# Reading a command line

The words are taken one by one. The value of an option or of a positional argument is looked at only
when the next argument is settled, or at the end; until then it is pending. After the word `--` all
words are positional. The words after a command are read on its own level, and the level above is
settled after it.
-/

set_option autoImplicit false

namespace BackupConsole.CommandLine

open Text

structure Reading where
  /-- The arguments that have been settled, with their values; an option without one has an empty
  text. -/
  given : List (Argument × String) := []
  pending : Option (Argument × Option String) := none
  awaited : List Field := []
  onlyPositional : Bool := false
deriving Repr

namespace Reading

def has (r : Reading) (argument : Argument) : Bool := (r.given.lookup argument).isSome

def accept (r : Reading) (argument : Argument) (value : String) : Except UsageError Reading :=
  if r.has argument then .error .repeatedOption
  else (argument.check value).map fun _ => { r with given := r.given ++ [(argument, value)] }

def settle (r : Reading) : Except UsageError Reading :=
  match r.pending with
  | none => .ok r
  | some (_, none) => .error .missingValue
  | some (argument, some value) => { r with pending := none }.accept argument value

def flag (r : Reading) (switch : Switch) : Except UsageError Reading := do
  let r ← r.settle
  if switch = .help then .error .helpWanted else r.accept (.option switch) ""

def letters (r : Reading) : List Char → Except UsageError Reading
  | [] => .ok r
  | letter :: rest =>
    match Switch.ofLetter? letter with
    | none => .error .unknownArgument
    | some switch => (r.flag switch).bind fun r => r.letters rest

def named (r : Reading) (level : Level) (name : String) (value : Option String) :
    Except UsageError Reading :=
  match level.switches.find? fun switch => switch.name == name with
  | none => .error .unknownArgument
  | some switch =>
    if switch.takesValue then do
      let r ← r.settle
      match value with
      | some value => r.accept (.option switch) value
      | none => .ok { r with pending := some (.option switch, none) }
    else if value.isSome then .error .needlessValue
    else r.flag switch

def positional (r : Reading) (level : Level) (word : String) : Except UsageError Reading :=
  match r.awaited with
  | field :: rest => do
    let r ← r.settle
    .ok { r with pending := some (.positional field, some word), awaited := rest }
  | [] =>
    if level.words.isEmpty || (r.onlyPositional && (level.words.lookup word).isSome) then
      .error .unknownArgument
    else .error .unknownCommand

def wantsValue (r : Reading) : Bool :=
  match r.pending with
  | some (_, none) => true
  | _ => false

def word (r : Reading) (level : Level) (s : String) : Except UsageError Reading :=
  if r.onlyPositional then r.positional level s
  else
    match s.toList with
    | ['-', '-'] => .ok { r with onlyPositional := true }
    | '-' :: '-' :: rest =>
      let (name, value) := cut '=' rest
      r.named level (String.ofList name) (value.map String.ofList)
    | '-' :: letter :: rest => r.letters (letter :: rest)
    | _ =>
      match r.pending with
      | some (argument, none) => .ok { r with pending := some (argument, some s) }
      | _ => r.positional level s

def next? (r : Reading) (level : Level) (s : String) : Option Level :=
  if r.onlyPositional || r.wantsValue then none else level.words.lookup s

end Reading

/-- Reads the words of a level up to a word that leads to the next one; gives that level and the
words after it. -/
def readLevel (level : Level) (r : Reading) :
    List String → Except UsageError (Reading × Option (Level × List String))
  | [] => .ok (r, none)
  | s :: rest =>
    match r.next? level s with
    | some next => .ok (r, some (next, rest))
    | none => (r.word level s).bind fun r => readLevel level r rest

def helpOn : Level → List String → UsageError
  | _, [] => .helpWanted
  | level, word :: rest =>
    match level.words.lookup word with
    | some next => helpOn next rest
    | none => .unknownCommand

def Reading.complete (r : Reading) (level : Level) : Except UsageError Unit :=
  match level with
  | .top | .help => .ok ()
  | .volume => .error (if r.given.isEmpty then .helpNeeded else .missingCommand)
  | .command verb =>
    if verb.fields.all fun field => r.has (.positional field) then .ok ()
    else .error .missingArgument

/-- What has been read on the levels of a command line, the innermost level first. -/
structure Words where
  verb : Option Verb
  levels : List Reading

def readCommand (verb : Verb) (words : List String) : Except UsageError Reading := do
  let (r, _) ← readLevel (.command verb) { awaited := verb.fields } words
  let r ← r.settle
  r.complete (.command verb)
  return r

def readVolume (words : List String) : Except UsageError Words := do
  let (r, next) ← readLevel .volume {} words
  match next with
  | some (.command verb, rest) =>
    let inner ← readCommand verb rest
    let r ← r.settle
    return ⟨some verb, [inner, r]⟩
  | some (_, rest) => .error (helpOn .volume rest)
  | none =>
    let r ← r.settle
    r.complete .volume
    return ⟨none, [r]⟩

def readWords (words : List String) : Except UsageError Words := do
  let (r, next) ← readLevel .top {} words
  match next with
  | some (.command verb, rest) =>
    let inner ← readCommand verb rest
    let r ← r.settle
    return ⟨some verb, [inner, r]⟩
  | some (.volume, rest) =>
    let inner ← readVolume rest
    let r ← r.settle
    return ⟨inner.verb, inner.levels ++ [r]⟩
  | some (_, rest) => .error (helpOn .top rest)
  | none =>
    let r ← r.settle
    return ⟨none, [r]⟩

def Words.has (words : Words) (argument : Argument) : Bool :=
  words.levels.any fun r => r.has argument

def Words.value? (words : Words) (argument : Argument) : Option String :=
  words.levels.findSome? fun r => r.given.lookup argument

end BackupConsole.CommandLine
