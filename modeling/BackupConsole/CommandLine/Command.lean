import BackupConsole.Config.Value
import BackupConsole.CommandLine.Reading
import BackupConsole.Order.PauseModes

set_option autoImplicit false

namespace BackupConsole.CommandLine

open Job Number Config

inductive Command where
  | watch
  | jobs (json : Bool)
  | start (name : String) (type : ArchiveType) (dryRun noStorage : Bool) (password : Option String)
  | abort (name : String)
  | pause (seconds : UInt64) (modes : PauseModes)
  | toggle
  | reset (name : String)
  | loadVolume (name : String) (number : UInt32)
  | unloadVolume (name : String)
  | trigger (name schedule : String)
  | schedules (name : String)
  | config
deriving DecidableEq, Repr

structure Options where
  configFile : Option String := none
  server : Option String := none
  simulation : Bool := false
  verbose : Bool := false
  jsonLogs : Bool := false
deriving DecidableEq, Repr

/-- The options as a layer of settings; an option that is not given says nothing. -/
def Options.entries (options : Options) : List (String × Value) :=
  (options.server.map fun server => ("server", .text server)).toList ++
    (if options.simulation then [("simulation", .boolean true)] else []) ++
    (if options.verbose then [("verbose", .boolean true)] else []) ++
    (if options.jsonLogs then [("json_logs", .boolean true)] else [])

structure Invocation where
  options : Options := {}
  command : Command := .watch
deriving DecidableEq, Repr

namespace Words

def switch (words : Words) (switch : Switch) : Bool := words.has (.option switch)

def options (words : Words) : Options where
  configFile := words.value? (.option .config)
  server := words.value? (.option .server)
  simulation := words.switch .simulation
  verbose := words.switch .verbose
  jsonLogs := words.switch .jsonLogs

def field {α : Type} (words : Words) (read : List Char → Option α) (field : Field) :
    Except UsageError α :=
  match words.value? (.positional field) with
  | none => .error .missingArgument
  | some value =>
    match read value.toList with
    | none => .error .malformedValue
    | some x => .ok x

def text (words : Words) (field : Field) : Except UsageError String :=
  words.field (fun s => some (String.ofList s)) field

def archiveType (words : Words) : Except UsageError ArchiveType :=
  match words.value? (.option .type) with
  | none => .ok .normal
  | some value =>
    match ArchiveType.ofText? value.toList with
    | none => .error .malformedValue
    | some type => .ok type

def pauseModes (words : Words) : PauseModes :=
  let modes : PauseModes :=
    { create := words.switch .create
      storage := words.switch .storage
      restore := words.switch .restore
      indexUpdate := words.switch .indexUpdate
      indexMaintenance := words.switch .indexMaintenance }
  if modes.isEmpty then .all else modes

def command (words : Words) : Except UsageError Command := do
  match words.verb with
  | none | some .watch => return .watch
  | some .jobs => return .jobs (words.switch .json)
  | some .start =>
    return .start (← words.text .name) (← words.archiveType) (words.switch .dryRun)
      (words.switch .noStorage) (words.value? (.option .password))
  | some .abort => return .abort (← words.text .name)
  | some .pause => return .pause (← words.field readUInt64 .seconds) words.pauseModes
  | some .toggle => return .toggle
  | some .reset => return .reset (← words.text .name)
  | some .load => return .loadVolume (← words.text .name) (← words.field readVolumeNumber .number)
  | some .unload => return .unloadVolume (← words.text .name)
  | some .trigger => return .trigger (← words.text .name) (← words.text .schedule)
  | some .schedules => return .schedules (← words.text .name)
  | some .config => return .config

end Words

def parse (words : List String) : Except UsageError Invocation := do
  let words ← readWords words
  return ⟨words.options, ← words.command⟩

end BackupConsole.CommandLine
