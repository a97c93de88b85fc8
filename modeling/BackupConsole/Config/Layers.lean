import BackupConsole.Toml.Document
import BackupConsole.Toml.Printed
import BackupConsole.Config.Extraction
import BackupConsole.Config.Variable

set_option autoImplicit false

namespace BackupConsole.Config

def tomlFiles : FileFormat where
  read? := Toml.read?
  print? := Toml.print?

def overlays : Layering where
  ofVariables := variableEntries
  merge := mergeEntries
  reading := readings
  complaint layer := (complaints layer).headD .unreadableFile

def load (file : Option String) (environment : List (String × String)) (overrides : Layer) :
    Except Fault Settings :=
  overlays.load tomlFiles file environment overrides

def Settings.toToml? (settings : Settings) : Option String := tomlFiles.settingsText? settings

end BackupConsole.Config
