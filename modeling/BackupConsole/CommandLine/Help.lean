import BackupConsole.CommandLine.Report

set_option autoImplicit false

namespace BackupConsole.CommandLine

def Field.label : Field → String
  | .name => "<NAME>"
  | .seconds => "<SECONDS>"
  | .number => "<NUMBER>"
  | .schedule => "<SCHEDULE>"

def Verb.word (verb : Verb) : String :=
  let ofVolumes := Level.volume.words.map fun (word, level) => ("volume " ++ word, level)
  let words := Level.top.words ++ ofVolumes
  ((words.find? fun entry => entry.2 == .command verb).map Prod.fst).getD ""

def Verb.all : List Verb :=
  [.watch, .jobs, .start, .abort, .pause, .toggle, .reset, .load, .unload, .trigger, .schedules,
    .config]

def Switch.usage (switch : Switch) : String :=
  "--" ++ switch.name ++ if switch.takesValue then " <VALUE>" else ""

def Verb.usage (verb : Verb) : String :=
  " ".intercalate <|
    verb.word :: verb.fields.map Field.label ++
      verb.switches.map fun switch => "[" ++ switch.usage ++ "]"

def usageText : String :=
  "".intercalate <|
    line "Monitor and control a backup server" :: line "" ::
      line "Usage: barctl [OPTIONS] [COMMAND]" :: line "" :: line "Commands:" ::
      Verb.all.map (fun verb => line ("  " ++ verb.usage)) ++
      line "" :: line "Options:" ::
      Switch.everywhere.map fun switch => line ("  " ++ switch.usage)

def UsageError.message : UsageError → String
  | .unknownArgument => "unexpected argument"
  | .missingValue => "a value is required"
  | .malformedValue => "invalid value"
  | .needlessValue => "a value for an option that takes none"
  | .missingArgument => "a required argument was not provided"
  | .missingCommand => "a subcommand was not provided"
  | .unknownCommand => "unrecognized subcommand"
  | .repeatedOption => "an option cannot be used multiple times"
  | .helpWanted | .helpNeeded => ""

/-- A complaint with its causes, which are numbered if there are several. -/
def failureText : List String → String
  | [] => ""
  | [message] => line ("Error: " ++ message)
  | [message, cause] => line ("Error: " ++ message ++ "\n\nCaused by:\n    " ++ cause)
  | message :: causes =>
    let numbered := causes.zipIdx.map fun (cause, i) => "\n    " ++ toString i ++ ": " ++ cause
    line ("Error: " ++ message ++ "\n\nCaused by:" ++ "".intercalate numbered)

end BackupConsole.CommandLine
