import BackupConsole.Config.Layers
import BackupConsole.Proofs.Text.Trimming
import BackupConsole.Proofs.Toml.Lines
import BackupConsole.Proofs.Toml.Outermost

set_option autoImplicit false

namespace BackupConsole.Config

open Toml Number Text

theorem tomlFiles_lawful : tomlFiles.Lawful where
  reads_printed _ distinct plain := read?_print? distinct plain
  too_large _ _ _ mem large := print?_eq_none mem large
  signed _ _ read key n mem := (proper_of_read? read).1 (key, .unsigned n) mem n rfl
  distinct _ _ read := (proper_of_read? read).2

/-! ## Merging -/

section

variable {key name : String} {v : Value} {entries : Layer}

theorem lookup_mergeEntry_of_ne (other : name ≠ key) :
    (mergeEntry key v entries).lookup name = entries.lookup name := by
  have miss : (name == key) = false := beq_eq_false_iff_ne.mpr other
  induction entries with
  | nil => rw [mergeEntry, List.lookup_cons, miss]
  | cons entry entries ih =>
    obtain ⟨k, old⟩ := entry
    rw [mergeEntry]
    split
    · next same =>
      subst same
      rw [List.lookup_cons, List.lookup_cons, miss]
    · rw [List.lookup_cons, List.lookup_cons, ih]

theorem merge_of_not_isTable {old : Value} (plain : ¬ old.IsTable) : old.merge v = v := by
  cases old with
  | table entries => exact absurd trivial plain
  | _ => rw [Value.merge]; rintro _ _ ⟨⟩

theorem lookup_mergeEntry (plain : ∀ w, entries.lookup key = some w → ¬ w.IsTable) :
    (mergeEntry key v entries).lookup key = some v := by
  induction entries with
  | nil => rw [mergeEntry, List.lookup_cons, beq_self_eq_true]
  | cons entry entries ih =>
    obtain ⟨k, old⟩ := entry
    rw [mergeEntry]
    split
    · next same =>
      subst same
      rw [List.lookup_cons, beq_self_eq_true, merge_of_not_isTable]
      exact plain old (by rw [List.lookup_cons, beq_self_eq_true])
    · next other =>
      have miss : (key == k) = false := beq_eq_false_iff_ne.mpr (Ne.symm other)
      rw [List.lookup_cons, miss]
      refine ih fun w here => plain w ?_
      rw [List.lookup_cons, miss]
      exact here

end

theorem lookup_mergeEntries_of_none {new : Layer} {name : String}
    (absent : new.lookup name = none) (old : Layer) :
    (mergeEntries old new).lookup name = old.lookup name := by
  induction new generalizing old with
  | nil => rw [mergeEntries]
  | cons entry new ih =>
    obtain ⟨key, v⟩ := entry
    rw [List.lookup_cons] at absent
    cases hit : name == key with
    | true => simp [hit] at absent
    | false =>
      rw [hit] at absent
      rw [mergeEntries, ih absent, lookup_mergeEntry_of_ne (beq_eq_false_iff_ne.mp hit)]

theorem lookup_mergeEntries {new : Layer} {key : String} {v : Value}
    (distinct : (new.map Prod.fst).Nodup) (given : new.lookup key = some v) {old : Layer}
    (plain : ∀ w, old.lookup key = some w → ¬ w.IsTable) :
    (mergeEntries old new).lookup key = some v := by
  induction new generalizing old with
  | nil => cases given
  | cons entry new ih =>
    obtain ⟨k, w⟩ := entry
    obtain ⟨unused, distinct⟩ := List.nodup_cons.mp distinct
    rw [mergeEntries]
    by_cases same : key = k
    · subst same
      rw [List.lookup_cons, beq_self_eq_true] at given
      have absent : new.lookup key = none :=
        List.lookup_eq_none_iff.mpr fun entry mem => bne_iff_ne.mpr fun again =>
          unused (List.mem_map.mpr ⟨entry, mem, again.symm⟩)
      rw [lookup_mergeEntries_of_none absent, lookup_mergeEntry plain]
      exact given
    · rw [List.lookup_cons, beq_eq_false_iff_ne.mpr same] at given
      refine ih distinct given fun u here => plain u ?_
      rwa [lookup_mergeEntry_of_ne same] at here

/-! ## Readings -/

theorem number?_eq_some_iff {bound n : Nat} {v : Value} :
    v.number? bound = some n ↔ v.whole? = some (n : Int) ∧ n < bound := by
  rw [Value.number?, Option.bind_eq_some_iff]
  constructor
  · rintro ⟨m, whole, inside⟩
    split at inside
    · next bounds =>
      cases inside
      rw [whole, Int.toNat_of_nonneg bounds.1]
      exact ⟨rfl, by omega⟩
    · cases inside
  · rintro ⟨whole, fits⟩
    refine ⟨n, whole, ?_⟩
    rw [if_pos ⟨Int.natCast_nonneg n, Int.ofNat_lt.mpr fits⟩, Int.toNat_natCast]

theorem readings_lawful : readings.Lawful where
  text _ := rfl
  truth _ := rfl
  optionalText _ := rfl
  number _ _ _ := number?_eq_some_iff
  choice _ _ mem := if_pos mem

/-! ## Numbers of variables -/

theorem bareValue_toDigits (n : UInt64) :
    bareValue (trim (Nat.toDigits 10 n.toNat)) = .unsigned n := by
  have whole : (Nat.toDigits 10 n.toNat).contains '.' = false := by
    rw [List.contains_eq_mem, decide_eq_false_iff_not]
    intro point
    exact ne_of_class (Nat.isDigit_of_mem_toDigits (by decide) (by decide) point)
      (by decide : Char.isDigit '.' = false) rfl
  rw [trim_of_dark (dark_toDigits n.toNat), bareValue, whole, if_neg Bool.false_ne_true]
  dsimp only
  rw [readUInt64_toDigits]

theorem variableValue?_toDigits (fuel : Nat) (n : UInt64) :
    variableValue? (fuel + 1) (Nat.toDigits 10 n.toNat) = some (.unsigned n, []) := by
  obtain ⟨c, digits, written, all, _⟩ := exists_toDigits n.toNat
  have digit : c.isDigit = true := all c List.mem_cons_self
  have start : skipAsciiBlanks (c :: digits) = c :: digits := by
    refine List.dropWhile_cons_of_neg ?_
    simp only [isAsciiBlank, Bool.or_eq_true, beq_iff_eq]
    rintro ((((rfl | rfl) | rfl) | rfl) | rfl) <;> cases digit
  have bare : (c :: digits).takeWhile (fun c => !isSeparator c) = c :: digits := by
    refine List.takeWhile_eq_self_iff.mpr fun d mem => ?_
    have digit := all d mem
    rw [Bool.not_eq_true', ← Bool.not_eq_true]
    simp only [isSeparator, Bool.or_eq_true, beq_iff_eq]
    rintro ((((rfl | rfl) | rfl) | rfl) | rfl) <;> cases digit
  have untrue : ¬ "true".toList.isPrefixOf (c :: digits) = true :=
    not_isPrefixOf_of_class digit (by decide) _ digits
  have unfalse : ¬ "false".toList.isPrefixOf (c :: digits) = true :=
    not_isPrefixOf_of_class digit (by decide) _ digits
  have value := bareValue_toDigits n
  rw [written] at value ⊢
  rw [variableValue?, start, if_neg untrue, if_neg unfalse]
  split
  · next same => exact absurd (List.cons.inj same).1 (ne_of_class digit (by decide))
  · next same => exact absurd (List.cons.inj same).1 (ne_of_class digit (by decide))
  · next same => exact absurd (List.cons.inj same).1 (ne_of_class digit (by decide))
  · next same => exact absurd (List.cons.inj same).1 (ne_of_class digit (by decide))
  · next same => exact absurd (List.cons.inj same).1 (ne_of_class digit (by decide))
  · dsimp only
    rw [bare, value, List.drop_length, Option.map_some]
    rfl

theorem variableEntries_interval (n : UInt64) :
    variableEntries [("BARCTL_POLL_INTERVAL_MS", toString n.toNat)] =
      [("poll_interval_ms", .unsigned n)] := by
  have key : variablePath? "BARCTL_POLL_INTERVAL_MS" = some ["poll_interval_ms"] := by
    decide +kernel
  have value : variableValue (toString n.toNat) = .unsigned n := by
    rw [variableValue, toList_toString, variableValue?_toDigits]
  simp only [variableEntries, List.foldl, key, value, nested, mergeEntry]

theorem overlays_lawful : overlays.Lawful where
  keeps old _ _ absent := lookup_mergeEntries_of_none absent old
  wins _ _ _ _ distinct given plain := lookup_mergeEntries distinct given plain
  no_variables := rfl
  number_variable := variableEntries_interval
  reading := readings_lawful

end BackupConsole.Config
