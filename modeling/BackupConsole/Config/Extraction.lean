import BackupConsole.Config.Settings

/-!
# Readings of values

Of several wrong values the one whose name comes first in the alphabet is complained about.
-/

set_option autoImplicit false

namespace BackupConsole.Config

namespace Value

def number? (bound : Nat) (v : Value) : Option Nat :=
  v.whole?.bind fun n => if 0 ≤ n ∧ n < bound then some n.toNat else none

def text? : Value → Option String
  | .text s => some s
  | .character c => some c.toString
  | _ => none

def truth? : Value → Option Bool
  | .boolean b => some b
  | _ => none

def optionalText? : Value → Option (Option String)
  | .empty => some none
  | v => v.text?.map some

def leastMember? : List (String × Value) → Option (String × Value)
  | [] => none
  | entry :: rest =>
    match leastMember? rest with
    | none => some entry
    | some least => if least.1 < entry.1 then some least else some entry

/-- A name, or a table of one name with nothing under it. -/
def choice? (names : List String) : Value → Option String
  | .text name => if name ∈ names then some name else none
  | .table entries =>
    match leastMember? entries with
    | some (name, .empty) => if name ∈ names then some name else none
    | _ => none
  | _ => none

def wrongNumber (key : String) (v : Value) : Fault :=
  if v.whole?.isSome then .wrongValue key else .wrongType key

def wrongChoice (names : List String) (key : String) : Value → Fault
  | .text _ => .unknownChoice key
  | .table entries =>
    match leastMember? entries with
    | none => .wrongType key
    | some (name, _) =>
      if name ∈ names then .wrongType (key ++ "." ++ name) else .unknownChoice (key ++ "." ++ name)
  | _ => .wrongType key

end Value

def readings : Reading where
  text? := Value.text?
  truth? := Value.truth?
  optionalText? := Value.optionalText?
  number? := Value.number?
  choice? := Value.choice?

def complaints (layer : Layer) : List Fault :=
  let wrong {α : Type} (key : String) (read? : Value → Option α) (fault : Value → Fault) :
      Option Fault :=
    (layer.lookup key).bind fun v => if (read? v).isSome then none else some (fault v)
  let number (key : String) (bound : Nat) := wrong key (Value.number? bound) (Value.wrongNumber key)
  let other {α : Type} (key : String) (read? : Value → Option α) :=
    wrong key read? fun _ => .wrongType key
  let names := SortKey.all.map SortKey.text
  [number "debug_level" UInt8.size,
    number "job_list_every" UInt32.size,
    other "json_logs" Value.truth?,
    other "log_file" Value.optionalText?,
    number "poll_interval_ms" UInt64.size,
    number "run_state_failure_threshold" UInt32.size,
    other "server" Value.text?,
    other "simulation" Value.truth?,
    wrong "sort" (Value.choice? names) (Value.wrongChoice names "sort"),
    other "verbose" Value.truth?].filterMap id

end BackupConsole.Config
