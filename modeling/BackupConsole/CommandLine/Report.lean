import BackupConsole.CommandLine.Work
import BackupConsole.Config.Layers

set_option autoImplicit false

namespace BackupConsole.CommandLine

def plainRendering : Rendering where
  json := Json.Value.pretty
  date? := Time.dateText?

def Invocation.task (invocation : Invocation) (file : Option String)
    (environment : List (String × String)) : Except Config.Fault (Config.Settings × Task) :=
  invocation.taskBy Config.overlays Config.tomlFiles plainRendering file environment

end BackupConsole.CommandLine
