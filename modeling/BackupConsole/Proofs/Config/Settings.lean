import BackupConsole.Proofs.Config.Laws

set_option autoImplicit false

namespace BackupConsole.Config

namespace Value

theorem whole?_normal (v : Value) : v.normal.whole? = v.whole? := by
  cases v with
  | unsigned n =>
    rw [normal]
    split
    · next inside =>
      have value : (Int64.ofNat n.toNat).toInt = n.toNat := Int64.toInt_ofNat_of_lt inside
      rw [whole?, whole?, value]
    · rfl
  | _ => rfl

theorem normal_of_not_whole {v : Value} (other : v.whole? = none) : v.normal = v := by
  cases v with
  | unsigned n => cases other
  | _ => rfl

theorem eq_of_normal {v w : Value} (same : w.normal = v.normal) (other : v.whole? = none) :
    w = v := by
  have neither : w.whole? = none := by rw [← w.whole?_normal, same, whole?_normal, other]
  rwa [normal_of_not_whole other, normal_of_not_whole neither] at same

end Value

theorem sortKey?_text {reading : Reading} (lawful : reading.Lawful) (key : SortKey) :
    sortKey? reading (.text key.text) = some key := by
  have named : key.text ∈ SortKey.all.map SortKey.text :=
    List.mem_map_of_mem (SortKey.mem_all key)
  rw [sortKey?, lawful.choice _ _ named, Option.bind_some]
  cases key <;> rfl

/-! ## Settings out of a layer -/

section

variable {reading : Reading} {layer : Layer} {settings : Settings} {key : String} {v : Value}

section

variable (lawful : reading.Lawful)
  (same : ∀ key, (layer.lookup key).map Value.normal = (settings.layer.lookup key).map Value.normal)
  (given : settings.layer.lookup key = some v)
include same given

theorem exists_entry : ∃ w, layer.lookup key = some w ∧ w.normal = v.normal := by
  refine Option.map_eq_some_iff.mp ?_
  rw [same, given, Option.map_some]

theorem setting?_of_not_whole (other : v.whole? = none) {α : Type} (usual : α)
    (read? : Value → Option α) : setting? layer key usual read? = read? v := by
  obtain ⟨w, here, normal⟩ := exists_entry same given
  rw [setting?, here]
  exact congrArg read? (Value.eq_of_normal normal other)

include lawful in
theorem setting?_number {bound n : Nat} (value : v.whole? = some (n : Int)) (fits : n < bound)
    {α : Type} (usual : α) (f : Nat → α) :
    setting? layer key usual (fun v => (reading.number? bound v).map f) = some (f n) := by
  obtain ⟨w, here, normal⟩ := exists_entry same given
  have whole : w.whole? = some (n : Int) := by
    rw [← w.whole?_normal, normal, Value.whole?_normal, value]
  rw [setting?, here]
  dsimp only
  rw [(lawful.number bound w n).mpr ⟨whole, fits⟩, Option.map_some]

end

/-- Settings that have been turned into a layer come out of it again, whichever way its numbers are
given. -/
theorem ofLayer?_of_same (lawful : reading.Lawful)
    (same : ∀ key,
      (layer.lookup key).map Value.normal = (settings.layer.lookup key).map Value.normal) :
    Settings.ofLayer? reading layer = some settings := by
  have logFile : setting? layer "log_file" ({} : Settings).logFile reading.optionalText? =
      some settings.logFile := by
    cases path : settings.logFile with
    | none =>
      have absent : settings.layer.lookup "log_file" = none := by
        rw [Settings.layer, path]
        rfl
      have here := same "log_file"
      rw [absent, Option.map_none, Option.map_eq_none_iff] at here
      rw [setting?, here]
    | some path' =>
      have given : settings.layer.lookup "log_file" = some (.text path') := by
        rw [Settings.layer, path]
        rfl
      rw [setting?_of_not_whole same given rfl, lawful.optionalText]
  have text {key s : String} (given : settings.layer.lookup key = some (.text s)) (usual : String) :
      setting? layer key usual reading.text? = some s := by
    rw [setting?_of_not_whole same given rfl, lawful.text]
  have truth {key : String} {b : Bool} (given : settings.layer.lookup key = some (.boolean b))
      (usual : Bool) : setting? layer key usual reading.truth? = some b := by
    rw [setting?_of_not_whole same given rfl, lawful.truth]
  have sort :
      setting? layer "sort" ({} : Settings).sort (sortKey? reading) = some settings.sort := by
    have given : settings.layer.lookup "sort" = some (.text settings.sort.text) := rfl
    rw [setting?_of_not_whole same given rfl, sortKey?_text lawful]
  have server : settings.layer.lookup "server" = some (.text settings.server) := rfl
  have interval :
      settings.layer.lookup "poll_interval_ms" = some (.unsigned settings.pollIntervalMs) := rfl
  have every : settings.layer.lookup "job_list_every" =
      some (.unsigned settings.jobListEvery.toUInt64) := rfl
  have threshold : settings.layer.lookup "run_state_failure_threshold" =
      some (.unsigned settings.runStateFailureThreshold.toUInt64) := rfl
  have debug : settings.layer.lookup "debug_level" =
      some (.unsigned settings.debugLevel.toUInt64) := rfl
  have simulation : settings.layer.lookup "simulation" = some (.boolean settings.simulation) := rfl
  have verbose : settings.layer.lookup "verbose" = some (.boolean settings.verbose) := rfl
  have jsonLogs : settings.layer.lookup "json_logs" = some (.boolean settings.jsonLogs) := rfl
  rw [Settings.ofLayer?]
  dsimp only
  rw [text server,
    setting?_number lawful same interval rfl settings.pollIntervalMs.toNat_lt,
    setting?_number lawful same every rfl settings.jobListEvery.toNat_lt,
    setting?_number lawful same threshold rfl settings.runStateFailureThreshold.toNat_lt,
    setting?_number lawful same debug rfl settings.debugLevel.toNat_lt,
    sort, truth simulation, truth verbose, truth jsonLogs, logFile]
  simp only [UInt8.toNat_toUInt64, UInt32.toNat_toUInt64, UInt8.ofNat_toNat, UInt32.ofNat_toNat,
    UInt64.ofNat_toNat]
  rfl

theorem whole?_of_ofLayer? (lawful : reading.Lawful)
    (read : Settings.ofLayer? reading layer = some settings)
    (here : layer.lookup "poll_interval_ms" = some v) :
    v.whole? = some (settings.pollIntervalMs.toNat : Int) := by
  simp only [Settings.ofLayer?, Option.bind_eq_bind, Option.bind_eq_some_iff] at read
  obtain ⟨_, _, interval, found, _, _, _, _, _, _, _, _, _, _, _, _, _, _, _, _, made⟩ := read
  cases made
  rw [setting?, here] at found
  obtain ⟨n, number, rfl⟩ := Option.map_eq_some_iff.mp found
  obtain ⟨whole, fits⟩ := (lawful.number _ v n).mp number
  rw [whole, UInt64.toNat_ofNat_of_lt' fits]

end

end BackupConsole.Config
