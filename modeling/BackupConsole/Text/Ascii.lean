set_option autoImplicit false

namespace BackupConsole.Text

def lower (s : String) : String :=
  String.ofList (s.toList.map Char.toLower)

def upper (s : List Char) : List Char :=
  s.map Char.toUpper

def sameIgnoringCase (s t : List Char) : Bool :=
  s.map Char.toLower == t.map Char.toLower

end BackupConsole.Text
