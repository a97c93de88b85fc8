import BackupConsole.Proofs.Config.Layers
import BackupConsole.Proofs.Config.Printed

set_option autoImplicit false

namespace BackupConsole.Config

open Toml

/-- Settings that have been loaded can be printed unless a variable or the command line gives a poll
interval above the signed range, and the printed text alone gives the same settings. -/
theorem loaded_settings_reload {format : FileFormat} {layering : Layering}
    (readable : format.Lawful) (layered : layering.Lawful) {file : Option String}
    {environment : List (String × String)} {overrides : Layer} {settings : Settings}
    (loaded : layering.load format file environment overrides = .ok settings) :
    ((format.settingsText? settings).isSome = true ↔
        settings.pollIntervalMs.toNat < Nat.pow 2 63) ∧
      (∀ text, format.settingsText? settings = some text →
        layering.load format (some text) [] [] = .ok settings) ∧
      ((layering.ofVariables environment).lookup "poll_interval_ms" = none →
        overrides.lookup "poll_interval_ms" = none →
          (format.settingsText? settings).isSome = true) := by
  refine ⟨isSome_settingsText?_iff readable, fun _ => load_settingsText? readable layered,
    fun unset ungiven => ?_⟩
  have printable := printable_of_load readable layered loaded unset ungiven
  exact (isSome_settingsText?_iff readable).mpr printable

def quotedFile : String := "server = '''it's\t\"x\"\\'''\nsort = \"part-size\"\n"

def quotedLayer : Layer := [("server", .text "it's\t\"x\"\\"), ("sort", .text "part-size")]

theorem read?_quotedFile : read? quotedFile = some quotedLayer := by
  have server : IsName "server" := ⟨by decide, List.all_eq_true.mp (by decide)⟩
  have sort : IsName "sort" := ⟨by decide, List.all_eq_true.mp (by decide)⟩
  have plain : ∀ entry ∈ quotedLayer, IsName entry.1 ∧ entry.2.IsPlain :=
    List.forall_mem_cons.mpr ⟨⟨server, trivial⟩, List.forall_mem_singleton.mpr ⟨sort, trivial⟩⟩
  obtain ⟨lines, written, entries⟩ := exists_lines plain
  have text : quotedFile =
      String.ofList (quotedLayer.flatMap fun entry => printedLine entry.1 entry.2) := by
    decide +kernel
  have distinct : (lines.map Line.key).Nodup := by
    have keys : lines.map Line.key = quotedLayer.map Prod.fst := by
      have names := congrArg (List.map Prod.fst) entries
      rwa [List.map_map, List.map_map] at names
    rw [keys]
    decide
  rw [text, written, read?_written lines distinct, entries]
  rfl

/-- A path that fits between none of the quotes without escapes. -/
def awkwardPath : String := "it's\n\"\"\"\"'''\u007f\r\n"

/-- The greatest interval that can be printed, from a variable. -/
theorem awkward_settings_reload :
    let settings : Settings :=
      { server := "it's\t\"x\"\\", pollIntervalMs := 9223372036854775807, sort := .partSize,
        logFile := some awkwardPath }
    tomlFiles.Lawful ∧ overlays.Lawful ∧
      load (some quotedFile) [("BARCTL_POLL_INTERVAL_MS", "9223372036854775807")]
        [("log_file", .text awkwardPath)] = .ok settings ∧
      ∃ text, settings.toToml? = some text ∧ load (some text) [] [] = .ok settings := by
  intro settings
  have loaded : load (some quotedFile) [("BARCTL_POLL_INTERVAL_MS", "9223372036854775807")]
      [("log_file", .text awkwardPath)] = .ok settings := by
    have file : tomlFiles.read? quotedFile = some quotedLayer := read?_quotedFile
    have interval : overlays.ofVariables [("BARCTL_POLL_INTERVAL_MS", "9223372036854775807")] =
        [("poll_interval_ms", .unsigned 9223372036854775807)] :=
      variableEntries_interval 9223372036854775807
    have merged : mergeEntries (mergeEntries (mergeEntries (Settings.layer {}) quotedLayer)
        [("poll_interval_ms", .unsigned 9223372036854775807)]) [("log_file", .text awkwardPath)] =
        settings.layer := by
      simp [settings, Settings.layer, quotedLayer, mergeEntries, mergeEntry, Value.merge,
        SortKey.text]
    rw [load, Layering.load, Option.elim_some, file]
    dsimp only
    rw [interval]
    exact (congrArg overlays.extract merged).trans (extract_of_same overlays_lawful fun _ => rfl)
  obtain ⟨printable, reload, _⟩ := loaded_settings_reload tomlFiles_lawful overlays_lawful loaded
  obtain ⟨text, printed⟩ := Option.isSome_iff_exists.mp (printable.mpr (by decide))
  exact ⟨tomlFiles_lawful, overlays_lawful, loaded, text, printed, reload text printed⟩

/-- Not all settings that can be loaded can be printed: a variable can give an interval that no file
can hold. -/
theorem interval_not_printed :
    ¬ ∀ (format : FileFormat) (layering : Layering), format.Lawful → layering.Lawful →
      ∀ file environment overrides settings,
        layering.load format file environment overrides = .ok settings →
          ∃ text, format.settingsText? settings = some text ∧
            layering.load format (some text) [] [] = .ok settings := by
  intro claim
  obtain ⟨loaded, unprinted⟩ := load_large_interval tomlFiles_lawful overlays_lawful
    (n := 9223372036854775808) (by decide)
  obtain ⟨text, printed, _⟩ :=
    claim tomlFiles overlays tomlFiles_lawful overlays_lawful _ _ _ _ loaded
  rw [unprinted] at printed
  cases printed

end BackupConsole.Config
