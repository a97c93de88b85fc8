set_option autoImplicit false

namespace BackupConsole.Dashboard

inductive Key where
  | char (c : Char)
  | escape
  | enter
  | up
  | down
  | left
  | backspace
  | tab
  | delete
  | function (number : Nat)
  | other (code : String)
deriving DecidableEq, Repr

inductive Stroke where
  | press
  | hold
  | release
deriving DecidableEq, Repr

inductive Input where
  | key (key : Key) (control : Bool) (stroke : Stroke)
  | resize
deriving DecidableEq, Repr

inductive Act where
  | quit
  | up
  | down
  | select
  | back
  | refresh
  | start
  | abort
  | pause
  | toggle
  | reset
  | loadVolume
  | unloadVolume
  | schedules
  | cycleSort
  | yes
  | char (c : Char)
  | backspace
deriving DecidableEq, Repr

def actOfLetter : Char → Option Act
  | 'q' => some .quit
  | 'k' => some .up
  | 'j' => some .down
  | ' ' => some .select
  | 'r' => some .refresh
  | 's' => some .start
  | 'a' => some .abort
  | 'p' => some .pause
  | 't' => some .toggle
  | 'R' => some .reset
  | 'v' => some .loadVolume
  | 'u' => some .unloadVolume
  | 'c' => some .schedules
  | 'o' => some .cycleSort
  | 'y' => some .yes
  | _ => none

def Key.act (prompting : Bool) : Key → Option Act
  | .escape => some .back
  | .enter => some .select
  | .up => some .up
  | .down => some .down
  | .backspace => if prompting then some .backspace else none
  | .char c => if prompting then some (.char c) else actOfLetter c
  | .function number => if number = 5 then some .refresh else none
  | .left | .tab | .delete | .other _ => none

def Input.act (prompting : Bool) : Input → Option Act
  | .resize => none
  | .key pressed control stroke =>
    if stroke = .release then none
    else if pressed = .char 'c' ∧ control then some .quit
    else pressed.act prompting

end BackupConsole.Dashboard
