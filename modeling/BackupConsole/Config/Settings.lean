import BackupConsole.Table.SortKey
import BackupConsole.Config.Value

set_option autoImplicit false

namespace BackupConsole.Config

/-- Why settings cannot be had; the key is the path of the wrong value. -/
inductive Fault where
  | unreadableFile
  | wrongType (key : String)
  | wrongValue (key : String)
  | unknownChoice (key : String)
deriving DecidableEq, Repr

structure Settings where
  server : String := "localhost:38523"
  pollIntervalMs : UInt64 := 1000
  jobListEvery : UInt32 := 10
  runStateFailureThreshold : UInt32 := 5
  debugLevel : UInt8 := 0
  sort : SortKey := .name
  simulation : Bool := false
  verbose : Bool := false
  jsonLogs : Bool := false
  logFile : Option String := none
deriving DecidableEq, Repr

namespace Settings

def effectiveInterval (settings : Settings) : UInt64 := max settings.pollIntervalMs 1

def effectiveJobListEvery (settings : Settings) : UInt32 := max settings.jobListEvery 1

/-- The settings under their names. A log file that is not set has no entry. -/
def layer (settings : Settings) : Layer :=
  [("server", .text settings.server),
    ("poll_interval_ms", .unsigned settings.pollIntervalMs),
    ("job_list_every", .unsigned settings.jobListEvery.toUInt64),
    ("run_state_failure_threshold", .unsigned settings.runStateFailureThreshold.toUInt64),
    ("debug_level", .unsigned settings.debugLevel.toUInt64),
    ("sort", .text settings.sort.text),
    ("simulation", .boolean settings.simulation),
    ("verbose", .boolean settings.verbose),
    ("json_logs", .boolean settings.jsonLogs)] ++
  settings.logFile.toList.map fun path => ("log_file", .text path)

end Settings

/-- The form of configuration files. -/
structure FileFormat where
  read? : String → Option Layer
  print? : Layer → Option String

/-- What values are read as. -/
structure Reading where
  text? : Value → Option String
  truth? : Value → Option Bool
  optionalText? : Value → Option (Option String)
  /-- A natural number below a bound. -/
  number? : Nat → Value → Option Nat
  /-- One of the names that can be chosen. -/
  choice? : List String → Value → Option String

section

variable (reading : Reading) (layer : Layer)

def setting? {α : Type} (key : String) (usual : α) (read? : Value → Option α) : Option α :=
  match layer.lookup key with
  | none => some usual
  | some v => read? v

def sortKey? (v : Value) : Option SortKey :=
  (reading.choice? (SortKey.all.map SortKey.text) v).bind fun name =>
    SortKey.all.find? fun key => key.text == name

/-- The settings under their names in a layer. A name that is not given has its usual value, and one
that is no setting is ignored. -/
def Settings.ofLayer? : Option Settings := do
  let usual : Settings := {}
  let server ← setting? layer "server" usual.server reading.text?
  let pollIntervalMs ← setting? layer "poll_interval_ms" usual.pollIntervalMs fun v =>
    (reading.number? UInt64.size v).map UInt64.ofNat
  let jobListEvery ← setting? layer "job_list_every" usual.jobListEvery fun v =>
    (reading.number? UInt32.size v).map UInt32.ofNat
  let runStateFailureThreshold ←
    setting? layer "run_state_failure_threshold" usual.runStateFailureThreshold fun v =>
      (reading.number? UInt32.size v).map UInt32.ofNat
  let debugLevel ← setting? layer "debug_level" usual.debugLevel fun v =>
    (reading.number? UInt8.size v).map UInt8.ofNat
  let sort ← setting? layer "sort" usual.sort (sortKey? reading)
  let simulation ← setting? layer "simulation" usual.simulation reading.truth?
  let verbose ← setting? layer "verbose" usual.verbose reading.truth?
  let jsonLogs ← setting? layer "json_logs" usual.jsonLogs reading.truth?
  let logFile ← setting? layer "log_file" usual.logFile reading.optionalText?
  return {
    server, pollIntervalMs, jobListEvery, runStateFailureThreshold, debugLevel, sort, simulation,
    verbose, jsonLogs, logFile }

end

/-- How layers of settings are made, put over each other and read. -/
structure Layering where
  ofVariables : List (String × String) → Layer
  merge : Layer → Layer → Layer
  reading : Reading
  /-- Which of the wrong values of a layer is complained about. -/
  complaint : Layer → Fault

def Layering.extract (layering : Layering) (layer : Layer) : Except Fault Settings :=
  match Settings.ofLayer? layering.reading layer with
  | some settings => .ok settings
  | none => .error (layering.complaint layer)

/-- The settings of a file's text, of variables and of overriding entries, over the usual ones. A
missing file gives nothing. -/
def Layering.load (layering : Layering) (format : FileFormat) (file : Option String)
    (environment : List (String × String)) (overrides : Layer) : Except Fault Settings :=
  match file.elim (some []) format.read? with
  | none => .error .unreadableFile
  | some given =>
    let usual := layering.merge (Settings.layer {}) given
    let surrounding := layering.merge usual (layering.ofVariables environment)
    layering.extract (layering.merge surrounding overrides)

def FileFormat.settingsText? (format : FileFormat) (settings : Settings) : Option String :=
  format.print? settings.layer

end BackupConsole.Config
