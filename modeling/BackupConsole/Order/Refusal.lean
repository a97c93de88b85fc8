import BackupConsole.Text.Escaped
import BackupConsole.Wire.Failure

set_option autoImplicit false

namespace BackupConsole

open Wire

inductive JobAction where
  | setPassword
  | start
  | abort
  | reset
  | loadVolume
  | unloadVolume
  | trigger
deriving DecidableEq, Repr

def JobAction.phrase : JobAction → String
  | .setPassword => "set crypt password for"
  | .start => "start"
  | .abort => "abort"
  | .reset => "reset"
  | .loadVolume => "load volume for"
  | .unloadVolume => "unload volume for"
  | .trigger => "trigger schedule of"

inductive ServerAction where
  | pause
  | suspend
  | resume
deriving DecidableEq, Repr

def ServerAction.phrase : ServerAction → String
  | .pause => "pause"
  | .suspend => "suspend"
  | .resume => "continue"

inductive Action where
  | job (action : JobAction) (name : String)
  | server (action : ServerAction)
deriving DecidableEq, Repr

inductive Refusal where
  | noJobSelected
  | passwordRequired (job : String)
  | invalidArgument (name value : String)
  | command (action : Action) (cause : Failure)
deriving DecidableEq, Repr

def Refusal.message : Refusal → String
  | .noJobSelected => "no job selected"
  | .passwordRequired job => "job '" ++ job ++ "' needs a crypt password"
  | .invalidArgument name value => "invalid " ++ name ++ " '" ++ Text.escaped value ++ "'"
  | .command (.job action name) cause =>
    "cannot " ++ action.phrase ++ " job '" ++ name ++ "': " ++ cause.message
  | .command (.server action) cause => "cannot " ++ action.phrase ++ " server: " ++ cause.message

end BackupConsole
