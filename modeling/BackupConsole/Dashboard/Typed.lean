import BackupConsole.Dashboard.App

set_option autoImplicit false

namespace BackupConsole.Dashboard

def Key.ofChar : Char → Key
  | '\x1b' => .escape
  | '\x7f' => .backspace
  | '\t' => .tab
  | c => .char c

def keysOf : List Char → List Key
  | '\x1b' :: '[' :: 'A' :: rest => .up :: keysOf rest
  | '\x1b' :: '[' :: 'B' :: rest => .down :: keysOf rest
  | c :: rest => Key.ofChar c :: keysOf rest
  | [] => []

/-- What a line without its line feed means; `prompting` says that a prompt takes text. -/
def inputsOf (prompting : Bool) (line : List Char) : List Input :=
  let last := if prompting || line.isEmpty then [Key.enter] else []
  (keysOf line ++ last).map fun key => .key key false .press

def App.handleLine (line : List Char) : Script App Unit := do
  let inputs := inputsOf (← Script.get).mode.prompts line
  inputs.forM fun input => do
    App.sync
    let _ ← App.handle input

end BackupConsole.Dashboard
