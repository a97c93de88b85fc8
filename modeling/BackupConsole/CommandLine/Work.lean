import BackupConsole.Config.Settings
import BackupConsole.Console
import BackupConsole.Json.Jobs
import BackupConsole.CommandLine.Command

set_option autoImplicit false

namespace BackupConsole.CommandLine

open Job Wire Polling Config

inductive Complaint where
  | badConfiguration (fault : Config.Fault)
  | unprintableConfiguration
  | unreachable (server : String) (cause : Failure)
  | unreadState (cause : Stop)
  | noSuchJob (name : String)
  | passwordMissing (job : String)
  | refused (refusal : Refusal)
deriving DecidableEq, Repr

def causesOfStop : Stop → List String
  | .runStateLost _ cause => [cause.message]
  | _ => []

def causesOfRefusal : Refusal → List String
  | .command _ cause => [cause.message]
  | _ => []

def Complaint.messages : Complaint → List String
  | .badConfiguration _ => ["Failed to load configuration"]
  | .unprintableConfiguration =>
    ["Failed to render configuration", "a number is too big for a configuration file"]
  | .unreachable server cause => ["Cannot reach server at " ++ server, cause.message]
  | .unreadState cause => "Failed to read server state" :: cause.message :: causesOfStop cause
  | .noSuchJob name => ["No job named '" ++ name ++ "'"]
  | .passwordMissing job => ["job '" ++ job ++ "' needs a crypt password, pass --password"]
  | .refused refusal => refusal.message :: causesOfRefusal refusal

abbrev Ending := Except Complaint String

/-- How the parts of a report are written that have a form of their own. -/
structure Rendering where
  json : Json.Value → String
  date? : Int64 → Option String

def line (s : String) : String := s ++ "\n"

def leftCell (width : Nat) (s : String) : String :=
  s ++ String.ofList (List.replicate (width - s.length) ' ')

def rightCell (width : Nat) (s : String) : String :=
  String.ofList (List.replicate (width - s.length) ' ') ++ s

def tableLine (name state type partSize compression crypt lastRun remaining : String) : String :=
  line <| " ".intercalate
    [leftCell 20 name, leftCell 24 state, leftCell 12 type, rightCell 10 partSize,
      leftCell 16 compression, leftCell 10 crypt, leftCell 17 lastRun, rightCell 9 remaining]

section

variable (rendering : Rendering)

def jobTable (c : Console) : String :=
  let heading :=
    tableLine "NAME" "STATE" "TYPE" "PART SIZE" "COMPRESS" "CRYPT" "LAST RUN" "REMAINING"
  let rows := c.table.jobs.map fun job =>
    tableLine job.name (c.displayState job) job.archiveType.name job.partSizeText
      job.compressionText job.cryptText (job.lastRunText rendering.date?) job.estimatedText
  line ("Server " ++ c.board.runState.label) ++ heading ++ "".intercalate rows

def jobsText (c : Console) (json : Bool) : String :=
  if json then line (rendering.json (Json.ofJobs c.table.jobs)) else jobTable rendering c

end

def schedulesText (c : Console) : String :=
  "".intercalate <| c.board.schedules.map fun schedule =>
    line (schedule.uuid ++ "  " ++ schedule.text)

def selectByName (name : String) : Script Console (Except Complaint Unit) := do
  match (← Script.get).board.roster.findByName? name with
  | none => return .error (.noSuchJob name)
  | some job =>
    let _ ← Console.select (some job.uuid)
    return .ok ()

def order (order : Order) (report : Effect → String) : Script Console Ending := do
  match ← Console.carryOut order with
  | .ok effect => return .ok (line (report effect))
  | .error (.passwordRequired job) => return .error (.passwordMissing job)
  | .error refusal => return .error (.refused refusal)

def orderOn (name : String) (theOrder : Order) (report : String) : Script Console Ending := do
  match ← selectByName name with
  | .error complaint => return .error complaint
  | .ok () => order theOrder fun _ => report

def work (rendering : Rendering) : Command → Script Console Ending
  | .watch | .config => pure (.ok "")
  | .jobs json => do return .ok (jobsText rendering (← Script.get) json)
  | .start name type dryRun noStorage password =>
    orderOn name (.starting type noStorage dryRun password)
      ("Started '" ++ name ++ "' (" ++ type.name ++ ")")
  | .abort name => orderOn name .abort ("Aborted '" ++ name ++ "'")
  | .reset name => orderOn name .reset ("Reset '" ++ name ++ "'")
  | .loadVolume name number =>
    orderOn name (.loadVolume number)
      ("Loaded volume " ++ toString number.toNat ++ " for '" ++ name ++ "'")
  | .unloadVolume name => orderOn name .unloadVolume ("Unloaded volume for '" ++ name ++ "'")
  | .trigger name schedule =>
    orderOn name (.trigger schedule) ("Triggered schedule " ++ schedule ++ " of '" ++ name ++ "'")
  | .pause seconds modes =>
    order (.pause seconds modes) fun _ =>
      "Paused " ++ modes.mask ++ " for " ++ toString seconds.toNat ++ "s"
  | .toggle =>
    order .toggle fun effect =>
      match effect with
      | .switched state => "Server " ++ state.label
      | _ => ""
  | .schedules name => do
    match ← selectByName name with
    | .error complaint => return .error complaint
    | .ok () => return .ok (schedulesText (← Script.get))

def reach (server : String) : Script Console (Except Complaint Unit) := do
  let answer ← Script.ask ⟨commandLevel, { name := "STATUS" }⟩
  match answer.merged with
  | .error cause => return .error (.unreachable server cause)
  | .ok _ => return .ok ()

def run (rendering : Rendering) (server : String) (command : Command) : Script Console Ending := do
  match ← reach server with
  | .error complaint => return .error complaint
  | .ok () =>
    match ← Console.refresh with
    | .error stop => return .error (.unreadState stop)
    | .ok () => work rendering command

def consoleOf (settings : Config.Settings) : Console :=
  Console.new
    { interval := settings.effectiveInterval
      jobListEvery := settings.effectiveJobListEvery
      threshold := settings.runStateFailureThreshold }
    settings.sort

inductive Task where
  | finished (ending : Ending)
  | dashboard
  | commanded (console : Console) (work : Script Console Ending)

def Invocation.taskBy (layering : Layering) (format : FileFormat) (rendering : Rendering)
    (invocation : Invocation) (file : Option String) (environment : List (String × String)) :
    Except Config.Fault (Config.Settings × Task) := do
  let settings ← layering.load format file environment invocation.options.entries
  let task :=
    match invocation.command with
    | .watch => .dashboard
    | .config =>
      match format.settingsText? settings with
      | some text => .finished (.ok text)
      | none => .finished (.error .unprintableConfiguration)
    | command => .commanded (consoleOf settings) (run rendering settings.server command)
  return (settings, task)

end BackupConsole.CommandLine
