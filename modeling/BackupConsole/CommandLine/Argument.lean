import BackupConsole.Job.ArchiveType
import BackupConsole.Number.Integer

set_option autoImplicit false

namespace BackupConsole.CommandLine

open Number

inductive Switch where
  | config
  | server
  | simulation
  | verbose
  | jsonLogs
  | help
  | json
  | type
  | dryRun
  | noStorage
  | password
  | create
  | storage
  | restore
  | indexUpdate
  | indexMaintenance
deriving DecidableEq, Repr

def Switch.name : Switch → String
  | .config => "config"
  | .server => "server"
  | .simulation => "simulation"
  | .verbose => "verbose"
  | .jsonLogs => "json-logs"
  | .help => "help"
  | .json => "json"
  | .type => "type"
  | .dryRun => "dry-run"
  | .noStorage => "no-storage"
  | .password => "password"
  | .create => "create"
  | .storage => "storage"
  | .restore => "restore"
  | .indexUpdate => "index-update"
  | .indexMaintenance => "index-maintenance"

def Switch.takesValue : Switch → Bool
  | .config | .server | .type | .password => true
  | _ => false

def Switch.ofLetter? : Char → Option Switch
  | 'v' => some .verbose
  | 'h' => some .help
  | _ => none

def Switch.everywhere : List Switch := [.config, .server, .simulation, .verbose, .jsonLogs, .help]

inductive Field where
  | name
  | seconds
  | number
  | schedule
deriving DecidableEq, Repr

inductive Verb where
  | watch
  | jobs
  | start
  | abort
  | pause
  | toggle
  | reset
  | load
  | unload
  | trigger
  | schedules
  | config
deriving DecidableEq, Repr

def Verb.switches : Verb → List Switch
  | .jobs => [.json]
  | .start => [.type, .dryRun, .noStorage, .password]
  | .pause => [.create, .storage, .restore, .indexUpdate, .indexMaintenance]
  | _ => []

def Verb.fields : Verb → List Field
  | .start | .abort | .reset | .unload | .schedules => [.name]
  | .pause => [.seconds]
  | .load => [.name, .number]
  | .trigger => [.name, .schedule]
  | .watch | .jobs | .toggle | .config => []

/-- Where on the command line one is: before any command, after `volume`, after a command, or after
`help`. -/
inductive Level where
  | top
  | volume
  | command (verb : Verb)
  | help
deriving DecidableEq, Repr

def Level.words : Level → List (String × Level)
  | .top =>
    [("watch", .command .watch), ("jobs", .command .jobs), ("start", .command .start),
      ("abort", .command .abort), ("pause", .command .pause), ("toggle", .command .toggle),
      ("reset", .command .reset), ("volume", .volume), ("trigger", .command .trigger),
      ("schedules", .command .schedules), ("config", .command .config), ("help", .help)]
  | .volume => [("load", .command .load), ("unload", .command .unload), ("help", .help)]
  | .command _ | .help => []

def Level.switches : Level → List Switch
  | .command verb => Switch.everywhere ++ verb.switches
  | _ => Switch.everywhere

def Level.fields : Level → List Field
  | .command verb => verb.fields
  | _ => []

inductive UsageError where
  | unknownArgument
  /-- The value of an option is missing, or an empty path. -/
  | missingValue
  | malformedValue
  | needlessValue
  | missingArgument
  | missingCommand
  | unknownCommand
  | repeatedOption
  | helpWanted
  | helpNeeded
deriving DecidableEq, Repr

inductive Argument where
  | option (switch : Switch)
  | positional (field : Field)
deriving DecidableEq, Repr

def readVolumeNumber (s : List Char) : Option UInt32 :=
  (readInt64 s).bind fun n =>
    if 0 ≤ n.toInt ∧ n.toInt < UInt32.size then some (UInt32.ofNat n.toInt.toNat) else none

def Argument.check (argument : Argument) (value : String) : Except UsageError Unit :=
  let demand (ok : Bool) (error : UsageError) : Except UsageError Unit :=
    if ok then .ok () else .error error
  match argument with
  | .option .config => demand (!value.isEmpty) .missingValue
  | .option .type => demand (Job.ArchiveType.ofText? value.toList).isSome .malformedValue
  | .positional .seconds => demand (readUInt64 value.toList).isSome .malformedValue
  | .positional .number => demand (readVolumeNumber value.toList).isSome .malformedValue
  | _ => .ok ()

end BackupConsole.CommandLine
