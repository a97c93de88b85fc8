import BackupConsole.Config.Settings
import BackupConsole.Toml.Space

set_option autoImplicit false

namespace BackupConsole.Config

structure IsName (key : String) : Prop where
  nonempty : key.toList ≠ []
  plain : ∀ c ∈ key.toList, Toml.isNameChar c = true

namespace Value

/-- A text, a truth value, or a number in the signed range. -/
def IsPlain : Value → Prop
  | .text _ | .boolean _ => True
  | .unsigned n => n.toNat < Nat.pow 2 63
  | _ => False

def IsTable : Value → Prop
  | .table _ => True
  | _ => False

/-- The same value with a signed number where that is wide enough. -/
def normal : Value → Value
  | .unsigned n => if n.toNat < Nat.pow 2 63 then .signed (Int64.ofNat n.toNat) else .unsigned n
  | v => v

theorem normal_normal (v : Value) : v.normal.normal = v.normal := by
  cases v with
  | unsigned n =>
    by_cases inside : n.toNat < Nat.pow 2 63
    · simp only [normal, if_pos inside]
    · simp only [normal, if_neg inside]
  | _ => rfl

end Value

/-- What is known of a form of files: writing and reading are inverse on texts, truth values and
numbers in the signed range, greater numbers cannot be written, and no name is given twice. -/
structure FileFormat.Lawful (format : FileFormat) : Prop where
  reads_printed : ∀ layer : Layer, (layer.map Prod.fst).Nodup →
    (∀ entry ∈ layer, IsName entry.1 ∧ entry.2.IsPlain) →
    ∃ text given, format.print? layer = some text ∧ format.read? text = some given ∧
      ∀ key, given.lookup key = (layer.lookup key).map Value.normal
  too_large : ∀ (layer : Layer) (key : String) (n : UInt64),
    (key, .unsigned n) ∈ layer → Nat.pow 2 63 ≤ n.toNat → format.print? layer = none
  signed : ∀ text given, format.read? text = some given → ∀ key n, (key, .unsigned n) ∉ given
  distinct : ∀ text given, format.read? text = some given → (given.map Prod.fst).Nodup

/-- What is known of readings: values are read as what they are, and numbers if they are below the
bound, signed or not. -/
structure Reading.Lawful (reading : Reading) : Prop where
  text : ∀ s, reading.text? (.text s) = some s
  truth : ∀ b, reading.truth? (.boolean b) = some b
  optionalText : ∀ s, reading.optionalText? (.text s) = some (some s)
  number : ∀ bound v n,
    reading.number? bound v = some n ↔ v.whole? = some (n : Int) ∧ n < bound
  choice : ∀ names name, name ∈ names → reading.choice? names (.text name) = some name

/-- What is known of layers: later ones win name by name, and numbers of variables are unsigned. -/
structure Layering.Lawful (layering : Layering) : Prop where
  keeps : ∀ (old new : Layer) (key : String), new.lookup key = none →
    (layering.merge old new).lookup key = old.lookup key
  wins : ∀ (old new : Layer) (key : String) (v : Value), (new.map Prod.fst).Nodup →
    new.lookup key = some v → (∀ w, old.lookup key = some w → ¬ w.IsTable) →
    (layering.merge old new).lookup key = some v
  no_variables : layering.ofVariables [] = []
  number_variable : ∀ n : UInt64,
    layering.ofVariables [("BARCTL_POLL_INTERVAL_MS", toString n.toNat)] =
      [("poll_interval_ms", .unsigned n)]
  reading : layering.reading.Lawful

end BackupConsole.Config
