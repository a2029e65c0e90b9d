import Inflight.CommandLine.Run
import Inflight.Proofs.Json.Reader
import Inflight.Proofs.Storage.Directory

/-!
# Configurations read back

A configuration is written with all its fields, in their order and each under
the name by which it is read, so no field falls back to its default.  Every part
comes back from its document, and so does the whole, in the compact and in the
pretty form.  A text that was printed of a configuration can therefore be read as
a configuration, and the same text is printed of that
(`Config.document_readsBack`).
-/

namespace Inflight

set_option autoImplicit false

open Json (Reader Shape maxLevels)

/-! ## The parts of a configuration -/

section Parts

variable (levels : Nat)

theorem CycleWindow.read_document (window : CycleWindow) :
    CycleWindow.shape.read (levels + 1)
      (Json.Value.object
        [("start", .natural window.start.toNat), ("stop", .natural window.stop.toNat)]).node =
      .ok window := by
  rw [Shape.read_inOrder (by decide) rfl, Shape.read_array]
  refine (Shape.readItems_defaulted (Reader.word_document "u64" levels window.start)).trans ?_
  exact Shape.readItems_defaulted (Reader.word_document "u64" levels window.stop)

theorem General.read_document (general : General) :
    General.shape.read (levels + 2) general.document.node = .ok general := by
  have cycleWindow := CycleWindow.read_document levels general.cycleWindow
  have maxWalk := Reader.optionalWord_document "usize" (levels + 1) general.maxWalk
  rw [General.document, Shape.read_inOrder (by decide) rfl, Shape.read_array]
  exact (Shape.readItems_defaulted cycleWindow).trans (Shape.readItems_defaulted maxWalk)

theorem Names.read_document (names : Names) :
    Names.shape.read (levels + 1) names.document.node = .ok names := by
  rw [Names.document, Shape.read_inOrder (by decide) rfl, Shape.read_array]
  -- A text is stored without being looked into, so the reader runs on names that are not known.
  rfl

theorem Columns.read_document (columns : Columns) :
    Columns.shape.read (levels + 1) columns.document.node = .ok columns := by
  rw [Columns.document, Shape.read_inOrder (by decide) rfl, Shape.read_array]
  refine (Shape.readItems_defaulted (Reader.boolean_document levels columns.miss)).trans ?_
  exact Shape.readItems_defaulted (Reader.boolean_document levels columns.oracle)

end Parts

/-! ## The whole configuration -/

namespace Config

theorem read_document (config : Config) :
    Config.shape.read maxLevels config.document.node = .ok config := by
  have general := General.read_document 124 config.general
  have names := Names.read_document 125 config.names
  have columns := Columns.read_document 125 config.columns
  have levels : maxLevels = 126 + 1 := rfl
  rw [document, Shape.read_inOrder (by decide) rfl, levels, Shape.read_array]
  refine (Shape.readItems_defaulted general).trans ?_
  refine (Shape.readItems_defaulted names).trans ?_
  exact Shape.readItems_defaulted columns

theorem ofText_compact (config : Config) : ofText config.document.compact = .ok config := by
  rw [ofText, Reader.ofText_compact, read_document]
  rfl

/-- The pretty form may be followed by space, as it is where it is printed. -/
theorem ofText_pretty (config : Config) {after : String}
    (blank : ∀ c ∈ after.toList, Json.isSpace c = true) :
    ofText (config.document.pretty ++ after) = .ok config := by
  rw [ofText, Reader.ofText_pretty _ _ blank, read_document]
  rfl

section Printing

open CommandLine (checkConfig loadConfig)
open Storage (FileSystem)

variable {σ φ : Type} [FileSystem σ φ]

/-- A file that can be read holds the configuration that its text gives. -/
theorem loadConfig_of_read {path text : String} {files : σ} {config : Config}
    (read : FileSystem.read path files = .ok text) (given : ofText text = .ok config) :
    loadConfig (some path) files = .ok config := by
  rw [loadConfig, read]
  exact given

/-- What is printed of a configuration. -/
theorem checkConfig_of_loads {path : String} {files : σ} {config : Config}
    (loads : loadConfig (some path) files = .ok config) :
    checkConfig path files = { output := config.document.pretty ++ "\n" } := by
  simp only [checkConfig, loads, CommandLine.Report.print_of_works, String.empty_append]

end Printing

/-- **A configuration comes back from its document**, in the compact and in the pretty form.
Where a configuration is printed, the pretty form is all that is shown of it; and where the printed
text is read as a configuration, the same text is printed again. -/
theorem document_readsBack (config : Config) :
    ofText config.document.compact = .ok config ∧
      ofText config.document.pretty = .ok config ∧
      ∀ {σ φ : Type} [Storage.FileSystem σ φ] {path : String} {files : σ},
        CommandLine.loadConfig (some path) files = .ok config →
        CommandLine.checkConfig path files =
            { status := 0, output := config.document.pretty ++ "\n", complaint := "" } ∧
          ∀ {again : String} {later : σ},
            Storage.FileSystem.read again later = .ok (CommandLine.checkConfig path files).output →
              (CommandLine.checkConfig again later).status = 0 ∧
                CommandLine.checkConfig again later = CommandLine.checkConfig path files := by
  refine ⟨ofText_compact config, ?_, fun {_ _ _ path files} loads => ?_⟩
  · have pretty : ofText (config.document.pretty ++ "") = .ok config :=
      ofText_pretty config (by simp)
    rwa [String.append_empty] at pretty
  · have printed := checkConfig_of_loads loads
    refine ⟨printed, fun {again later} read => ?_⟩
    rw [printed] at read
    have lineEnd : ∀ c ∈ "\n".toList, Json.isSpace c = true := by simp [Json.isSpace]
    have loadsAgain := loadConfig_of_read read (ofText_pretty config lineEnd)
    rw [checkConfig_of_loads loadsAgain, printed]
    exact ⟨rfl, rfl⟩

/-- A working folder in which a configuration is kept. -/
def folderWith (text : String) : Storage.Directory where
  entries := [(Storage.Directory.place "config.json", .file 0)]
  contents := #[text.toByteArray]

theorem read_folderWith (text : String) :
    Storage.FileSystem.read "config.json" (folderWith text) = .ok text :=
  Storage.Directory.read_of_file (by decide +kernel) _ (by decide +kernel) rfl rfl

/-- A configuration with a quote and a line end in a name, and with a bound. -/
def quotedWindow : Config :=
  { general := { maxWalk := some 7 }, names := { window := "\"\n" } }

/-- The compact form is kept, the pretty form is printed, and then that is kept instead. -/
theorem document_readsBack_quotedWindow :
    let files := folderWith quotedWindow.document.compact
    let printed := CommandLine.checkConfig "config.json" files
    CommandLine.loadConfig (some "config.json") files = .ok quotedWindow ∧
      printed.output = quotedWindow.document.pretty ++ "\n" ∧
      Storage.FileSystem.read "config.json" (folderWith printed.output) = .ok printed.output ∧
      CommandLine.checkConfig "config.json" (folderWith printed.output) = printed := by
  have loads := loadConfig_of_read (read_folderWith _) (ofText_compact quotedWindow)
  have read := read_folderWith (CommandLine.checkConfig "config.json"
    (folderWith quotedWindow.document.compact)).output
  obtain ⟨printed, again⟩ := (document_readsBack quotedWindow).2.2 loads
  have output := congrArg CommandLine.Report.output printed
  dsimp only at output
  exact ⟨loads, output, read, (again read).2⟩

end Config

end Inflight
