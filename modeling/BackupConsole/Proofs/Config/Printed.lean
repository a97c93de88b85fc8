import BackupConsole.Proofs.Config.Settings

set_option autoImplicit false

namespace BackupConsole.Config

/-! ## Settings as a layer -/

namespace Settings

def Printable (settings : Settings) : Prop := settings.pollIntervalMs.toNat < Nat.pow 2 63

def names : List String :=
  ["server", "poll_interval_ms", "job_list_every", "run_state_failure_threshold", "debug_level",
    "sort", "simulation", "verbose", "json_logs"]

variable (settings : Settings)

theorem map_fst_layer :
    settings.layer.map Prod.fst = names ++ settings.logFile.toList.map fun _ => "log_file" := by
  rw [layer, List.map_append, List.map_map]
  rfl

theorem mem_names {entry : String × Value} (mem : entry ∈ settings.layer) :
    entry.1 ∈ names ++ ["log_file"] := by
  have named := List.mem_map_of_mem (f := Prod.fst) mem
  rw [map_fst_layer, List.mem_append] at named
  refine List.mem_append.mpr (named.imp_right fun last => ?_)
  obtain ⟨_, _, same⟩ := List.mem_map.mp last
  exact List.mem_singleton.mpr same.symm

theorem nodup_layer : (settings.layer.map Prod.fst).Nodup := by
  rw [map_fst_layer]
  cases settings.logFile with
  | none => decide
  | some path => exact (by decide : (names ++ ["log_file"]).Nodup)

theorem isName_of_mem_layer {entry : String × Value} (mem : entry ∈ settings.layer) :
    IsName entry.1 := by
  have plain : ∀ key ∈ names ++ ["log_file"],
      key.toList ≠ [] ∧ key.toList.all Toml.isNameChar = true := by decide
  obtain ⟨nonempty, all⟩ := plain entry.1 (settings.mem_names mem)
  exact ⟨nonempty, List.all_eq_true.mp all⟩

theorem lookup_usual_of_none {key : String} (absent : settings.layer.lookup key = none) :
    (Settings.layer {}).lookup key = none := by
  rw [List.lookup_eq_none_iff] at absent ⊢
  intro entry mem
  have named := List.mem_map_of_mem (f := Prod.fst) mem
  rw [map_fst_layer, Option.toList_none, List.map_nil, List.append_nil] at named
  have here : entry.1 ∈ settings.layer.map Prod.fst := by
    rw [map_fst_layer]
    exact List.mem_append_left _ named
  obtain ⟨other, given, same⟩ := List.mem_map.mp here
  exact same ▸ absent other given

theorem not_isTable_of_lookup_layer {key : String} {v : Value}
    (given : settings.layer.lookup key = some v) : ¬ v.IsTable := by
  obtain ⟨before, after, split, _⟩ := List.lookup_eq_some_iff.mp given
  have mem : (key, v) ∈ settings.layer := split ▸ List.mem_append_right before List.mem_cons_self
  rcases List.mem_append.mp mem with mem | mem
  · simp only [List.mem_cons, Prod.mk.injEq, List.not_mem_nil, or_false] at mem
    rcases mem with ⟨_, rfl⟩ | ⟨_, rfl⟩ | ⟨_, rfl⟩ | ⟨_, rfl⟩ | ⟨_, rfl⟩ | ⟨_, rfl⟩ | ⟨_, rfl⟩ |
      ⟨_, rfl⟩ | ⟨_, rfl⟩ <;> exact id
  · obtain ⟨path, _, same⟩ := List.mem_map.mp mem
    cases same
    exact id

variable {settings}

theorem writable_of_mem_layer (printable : settings.Printable) :
    ∀ entry ∈ settings.layer, IsName entry.1 ∧ entry.2.IsPlain := by
  have narrow (n : UInt32) : (Value.unsigned n.toUInt64).IsPlain := by
    have bound := n.toNat_lt
    simp only [Value.IsPlain, UInt32.toNat_toUInt64]
    exact Nat.lt_trans bound (by decide)
  have narrower (n : UInt8) : (Value.unsigned n.toUInt64).IsPlain := by
    have bound := n.toNat_lt
    simp only [Value.IsPlain, UInt8.toNat_toUInt64]
    exact Nat.lt_trans bound (by decide)
  refine fun entry mem => ⟨settings.isName_of_mem_layer mem, ?_⟩
  rcases List.mem_append.mp mem with mem | mem
  · simp only [List.mem_cons, List.not_mem_nil, or_false] at mem
    rcases mem with rfl | rfl | rfl | rfl | rfl | rfl | rfl | rfl | rfl
    · trivial
    · exact printable
    · exact narrow _
    · exact narrow _
    · exact narrower _
    all_goals trivial
  · obtain ⟨path, _, rfl⟩ := List.mem_map.mp mem
    trivial

end Settings

/-! ## Loading what has been printed -/

section

variable {format : FileFormat} {layering : Layering} (readable : format.Lawful)
  (layered : layering.Lawful) {settings : Settings}

include readable in
theorem isSome_settingsText?_iff :
    (format.settingsText? settings).isSome = true ↔ settings.Printable := by
  constructor
  · intro printed
    refine Nat.lt_of_not_le fun large => ?_
    have unprinted : format.settingsText? settings = none :=
      readable.too_large settings.layer "poll_interval_ms" settings.pollIntervalMs
        (List.mem_append_left _ (List.mem_cons_of_mem _ List.mem_cons_self)) large
    rw [unprinted] at printed
    cases printed
  · intro printable
    obtain ⟨text, _, printed, _⟩ := readable.reads_printed settings.layer settings.nodup_layer
      (Settings.writable_of_mem_layer printable)
    exact Option.isSome_iff_exists.mpr ⟨text, printed⟩

include layered in
theorem lookup_merge_nil (old : Layer) (key : String) :
    (layering.merge old []).lookup key = old.lookup key := layered.keeps old [] key rfl

include layered in
theorem extract_of_same {layer : Layer}
    (same : ∀ key,
      (layer.lookup key).map Value.normal = (settings.layer.lookup key).map Value.normal) :
    layering.extract layer = .ok settings := by
  rw [Layering.extract, ofLayer?_of_same layered.reading same]

include layered in
theorem extract_over_usual {given : Layer} (distinct : (given.map Prod.fst).Nodup)
    (same : ∀ key, given.lookup key = (settings.layer.lookup key).map Value.normal) :
    layering.extract (layering.merge (layering.merge (layering.merge (Settings.layer {}) given)
      (layering.ofVariables [])) []) = .ok settings := by
  refine extract_of_same layered fun key => ?_
  rw [layered.no_variables, lookup_merge_nil layered, lookup_merge_nil layered]
  cases here : settings.layer.lookup key with
  | none =>
    have absent : given.lookup key = none := by rw [same, here, Option.map_none]
    rw [layered.keeps _ _ _ absent, settings.lookup_usual_of_none here]
  | some v =>
    have present : given.lookup key = some v.normal := by rw [same, here, Option.map_some]
    rw [layered.wins _ _ _ _ distinct present fun w => Settings.not_isTable_of_lookup_layer {},
      Option.map_some, Option.map_some, Value.normal_normal]

include readable layered in
theorem load_settingsText? {text : String} (printed : format.settingsText? settings = some text) :
    layering.load format (some text) [] [] = .ok settings := by
  have printable : settings.Printable :=
    (isSome_settingsText?_iff readable).mp (Option.isSome_iff_exists.mpr ⟨text, printed⟩)
  obtain ⟨other, given, written, read, same⟩ :=
    readable.reads_printed settings.layer settings.nodup_layer
      (Settings.writable_of_mem_layer printable)
  obtain rfl : other = text := Option.some.inj (written.symm.trans printed)
  rw [Layering.load, Option.elim_some, read]
  exact extract_over_usual layered (readable.distinct _ _ read) same

/-! ## Where a poll interval comes from -/

theorem Value.lt_of_signed {v : Value} {n : Nat} (whole : v.whole? = some (n : Int))
    (signed : ∀ m, v ≠ .unsigned m) : n < Nat.pow 2 63 := by
  cases v with
  | unsigned m => exact absurd rfl (signed m)
  | signed m =>
    have value : m.toInt = n := Option.some.inj whole
    have below := m.toInt_lt
    have limit : (Nat.pow 2 63 : Int) = 2 ^ 63 := by decide
    omega
  | _ => cases whole

include readable in
theorem signed_of_read {file : Option String} {given : Layer}
    (read : file.elim (some []) format.read? = some given) :
    (given.map Prod.fst).Nodup ∧ ∀ key n, (key, .unsigned n) ∉ given := by
  cases file with
  | none =>
    cases read
    exact ⟨List.nodup_nil, fun _ _ => List.not_mem_nil⟩
  | some text => exact ⟨readable.distinct text given read, readable.signed text given read⟩

include layered in
theorem whole?_of_extract {layer : Layer} {v : Value}
    (extracted : layering.extract layer = .ok settings)
    (here : layer.lookup "poll_interval_ms" = some v) :
    v.whole? = some (settings.pollIntervalMs.toNat : Int) := by
  unfold Layering.extract at extracted
  split at extracted
  · next read =>
    cases extracted
    exact whole?_of_ofLayer? layered.reading read here
  · cases extracted

include readable layered in
/-- Where neither the variables nor the command line give the poll interval, it is the usual one or
that of the file. -/
theorem printable_of_load {file : Option String} {environment : List (String × String)}
    {overrides : Layer} (loaded : layering.load format file environment overrides = .ok settings)
    (unset : (layering.ofVariables environment).lookup "poll_interval_ms" = none)
    (ungiven : overrides.lookup "poll_interval_ms" = none) : settings.Printable := by
  have usual : (Settings.layer {}).lookup "poll_interval_ms" = some (.unsigned 1000) := rfl
  unfold Layering.load at loaded
  split at loaded
  · cases loaded
  · next given read =>
    obtain ⟨distinct, signed⟩ := signed_of_read readable read
    have interval (v : Value)
        (here : (layering.merge (Settings.layer {}) given).lookup "poll_interval_ms" = some v) :
        v.whole? = some (settings.pollIntervalMs.toNat : Int) := by
      refine whole?_of_extract layered loaded ?_
      rw [layered.keeps _ _ _ ungiven, layered.keeps _ _ _ unset, here]
    cases here : given.lookup "poll_interval_ms" with
    | none =>
      have same : (1000 : Int) = settings.pollIntervalMs.toNat :=
        Option.some.inj (interval _ ((layered.keeps _ _ _ here).trans usual))
      rw [Settings.Printable, ← Int.ofNat.inj same]
      decide
    | some v =>
      obtain ⟨before, after, split, _⟩ := List.lookup_eq_some_iff.mp here
      have wins := layered.wins (Settings.layer {}) given _ v distinct here
        fun _ => Settings.not_isTable_of_lookup_layer {}
      refine Value.lt_of_signed (interval v wins) fun m unsigned => ?_
      refine signed "poll_interval_ms" m ?_
      exact split ▸ unsigned ▸ List.mem_append_right before List.mem_cons_self

include readable layered in
theorem load_large_interval {n : UInt64} (large : Nat.pow 2 63 ≤ n.toNat) :
    layering.load format none [("BARCTL_POLL_INTERVAL_MS", toString n.toNat)] [] =
        .ok { pollIntervalMs := n } ∧
      format.settingsText? { pollIntervalMs := n } = none := by
  constructor
  · rw [Layering.load, Option.elim_none]
    refine extract_of_same layered fun key => ?_
    rw [layered.number_variable, lookup_merge_nil layered]
    by_cases same : key = "poll_interval_ms"
    · subst same
      have single : ([("poll_interval_ms", Value.unsigned n)].map Prod.fst).Nodup :=
        List.pairwise_singleton _ _
      rw [layered.wins _ _ _ (.unsigned n) single rfl]
      · rfl
      · intro w
        rw [lookup_merge_nil layered]
        exact Settings.not_isTable_of_lookup_layer {}
    · have other : (key == "poll_interval_ms") = false := beq_eq_false_iff_ne.mpr same
      have absent : List.lookup key [("poll_interval_ms", Value.unsigned n)] = none := by
        simp only [List.lookup_cons, other, List.lookup_nil]
      rw [layered.keeps _ _ _ absent, lookup_merge_nil layered]
      simp only [Settings.layer, List.cons_append, List.lookup_cons, other]
  · have unprintable : ¬ Settings.Printable { pollIntervalMs := n } := Nat.not_lt.mpr large
    rw [← isSome_settingsText?_iff readable, Option.not_isSome_iff_eq_none] at unprintable
    exact unprintable

end

end BackupConsole.Config
