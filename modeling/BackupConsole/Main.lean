import Std.Async.DNS
import Std.Async.TCP
import BackupConsole.CommandLine.Help
import BackupConsole.Dashboard.Screen
import BackupConsole.Dashboard.Typed
import BackupConsole.Simulation.Demo
import BackupConsole.Simulation.Identifier
import BackupConsole.Wire.Address
import BackupConsole.Wire.Client

/-!
# The program

Reads the command line, the configuration file and the environment, and runs the command on a
connection to the server or on the demonstration server. Everything that is decided here is where
bytes come from and where texts go.
-/

set_option autoImplicit false

namespace BackupConsole.Program

open Wire CommandLine Simulation
open Dashboard (App screen popup footer)
open Std.Async.TCP.Socket (Client)
open Std.Net (IPAddr SocketAddress)

abbrev Serve := Call → IO Answer

def now : IO Int64 := do
  let moment ← Std.Time.Timestamp.now
  return Int64.ofInt moment.toSecondsSinceUnixEpoch.val

/-! ## The server behind a connection -/

/-- What is kept between calls: the open connection with the bytes that have arrived and have not
been read, and the number of the next request. -/
structure Line where
  connection : Option (Client × List UInt8) := none
  nextId : UInt64 := 1

def lookUp (address : Address) : IO (List SocketAddress) := do
  let found ← (Std.Async.DNS.getAddrInfo address.host (toString address.number.toNat)).block
  return found.toList.map fun
    | .v4 addr => .v4 { addr, port := address.number }
    | .v6 addr => .v6 { addr, port := address.number }

def connectFirst : List SocketAddress → IO Client
  | [] => throw (IO.userError "could not resolve to any addresses")
  | address :: rest => do
    let socket ← Client.mk
    try
      (socket.connect address).block
      return socket
    catch e => if rest.isEmpty then throw e else connectFirst rest

def connect (server : String) : IO Client := do
  match Address.parse server with
  | .error reason => throw (IO.userError reason)
  | .ok address => connectFirst (← lookUp address)

partial def nextLine (socket : Client) (unread : List UInt8) : IO (List UInt8 × List UInt8) := do
  if unread.contains 10 then
    return ((byteLines unread).headD [], (byteLines unread).tail.flatten)
  else
    match ← (socket.recv? 65536).block with
    | none => return (unread, [])
    | some bytes => nextLine socket (unread ++ bytes.toList)

partial def receive (id : UInt64) (socket : Client) (unread : List UInt8) :
    IO (Answer × List UInt8) := do
  let (line, unread) ← nextLine socket unread
  if line.isEmpty then return (.failed closedByServer, [])
  match Reading.ofBytes id line with
  | .blank => receive id socket unread
  | .failed failure => return (.failed failure, unread)
  | .row fields last =>
    if last then return ({ rows := fields.toList }, unread)
    else
      let (answer, unread) ← receive id socket unread
      return ({ answer with rows := fields.toList ++ answer.rows }, unread)

def exchange (server : String) (state : IO.Ref Line) : Serve := fun call => do
  let line ← state.get
  try
    let (socket, unread) ←
      match line.connection with
      | some connection => pure connection
      | none =>
        try
          pure (← connect server, [])
        catch e => throw (IO.userError (server ++ ": " ++ toString e))
    state.set { connection := none, nextId := line.nextId + 1 }
    (socket.send (call.request.line line.nextId).toUTF8).block
    let (answer, unread) ← receive line.nextId socket unread
    if keepsConnection answer.outcome then
      state.modify fun line => { line with connection := some (socket, unread) }
    return answer
  catch e => return .failed (.connection (toString e))

/-! ## The demonstration server -/

def freshId : IO String := do
  let random ← IO.getRandomBytes 10
  let number := random.toList.foldl (fun n byte => 256 * n + byte.toNat) 0
  return timeOrderedUuid ((← now).toInt.toNat * 1000) (number % Nat.pow 2 76)

def demoIds : IO DemoIds := do
  return {
    home := ← freshId, workdays := ← freshId, monthly := ← freshId, projects := ← freshId
    mail := ← freshId, media := ← freshId }

def demonstrate (state : IO.Ref Server) : Serve := fun call => do
  let (answer, server) := (← state.get).answer (← now) call.request
  state.set server
  return answer

def serving (settings : Config.Settings) : IO Serve := do
  if settings.simulation then
    return demonstrate (← IO.mkRef (demo (← now) (← demoIds)))
  else
    return exchange settings.server (← IO.mkRef {})

/-! ## The dashboard -/

def present (texts : List String) : IO Unit := do
  IO.print "\x1b[2J\x1b[H"
  texts.forM fun text => IO.println text
  (← IO.getStdout).flush

/-- Shows the dashboard until the user quits. `seen` is the time that polling knows of in
milliseconds, `shown` what is on the screen, and `typed` the line that the user types. -/
partial def watch (serve : Serve) (a : App) (seen : Nat) (shown : List String)
    (typed : Task (Except IO.Error String)) : IO Unit := do
  let time ← IO.monoMsNow
  let catchUp : Script App Unit := do
    App.inConsole (Console.elapse (time - seen))
    App.sync
  let (_, a) ← (catchUp a).runM serve
  let texts := (screen a ++ popup a ++ footer a).filter (· ≠ "")
  if texts != shown then present texts
  if ← IO.hasFinished typed then
    match typed.get with
    | .error e => throw e
    | .ok "" => return
    | .ok line =>
      let keys := line.toList.filter fun c => c != '\n' && c != '\r'
      let (_, a) ← (App.handleLine keys a).runM serve
      if a.running then
        watch serve a time [] (← (← IO.getStdin).getLine.asTask)
  else
    IO.sleep 200
    watch serve a time texts typed

def dashboard (settings : Config.Settings) (serve : Serve) : IO Unit := do
  let (_, console) := (consoleOf settings).start
  let server := if settings.simulation then "simulation" else settings.server
  watch serve { console, server } (← IO.monoMsNow) [] (← (← IO.getStdin).getLine.asTask)

/-! ## Configuration -/

def readEnvironment : IO (List (String × String)) := do
  let bytes ← try IO.FS.readBinFile "/proc/self/environ" catch _ => pure .empty
  let text := (String.fromUTF8? bytes).getD ""
  return (text.splitOn "\x00").filterMap fun entry =>
    match Text.cut '=' entry.toList with
    | (name, some value) => some (String.ofList name, String.ofList value)
    | _ => none

def firstFile : List String → IO (Option ByteArray)
  | [] => return none
  | path :: rest => do
    match ← (IO.FS.readBinFile path).toBaseIO with
    | .ok bytes => return some bytes
    | .error _ => firstFile rest

/-- The bytes of the configuration file. A relative path is looked for in the current directory and
in those above it. -/
def configurationFile (path : String) : IO (Option ByteArray) := do
  if path.startsWith "/" then firstFile [path]
  else
    let depth := (← IO.currentDir).components.length
    firstFile ((List.range depth).map fun steps =>
      "".intercalate (List.replicate steps "../") ++ path)

def usualPath : String := "/etc/barctl/config.toml"

/-! ## Commands -/

def conclude : Ending → IO UInt32
  | .ok text => do
    IO.print text
    return 0
  | .error complaint => do
    IO.eprint (failureText complaint.messages)
    return 1

def accomplish (settings : Config.Settings) : Task → IO UInt32
  | .finished ending => conclude ending
  | .dashboard => do
    dashboard settings (← serving settings)
    return 0
  | .commanded console work => do
    let (ending, _) ← (work console).runM (← serving settings)
    conclude ending

def perform (invocation : Invocation) : IO UInt32 := do
  let unusable (fault : Config.Fault) : IO UInt32 := conclude (.error (.badConfiguration fault))
  let file ← configurationFile (invocation.options.configFile.getD usualPath)
  let text := file.map String.fromUTF8?
  if text = some none then unusable .unreadableFile
  else
    let environment ← readEnvironment
    match invocation.task text.join environment with
    | .error fault => unusable fault
    | .ok (settings, task) => accomplish settings task

def refuse : UsageError → IO UInt32
  | .helpWanted => do
    IO.print usageText
    return 0
  | .helpNeeded => do
    IO.eprint usageText
    return 2
  | error => do
    IO.eprint (line ("error: " ++ error.message) ++ line "" ++ usageText)
    return 2

end BackupConsole.Program

def main (args : List String) : IO UInt32 := do
  match BackupConsole.CommandLine.parse args with
  | .error error => BackupConsole.Program.refuse error
  | .ok invocation => BackupConsole.Program.perform invocation
