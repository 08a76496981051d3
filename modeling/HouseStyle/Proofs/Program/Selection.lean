/-
This file proves which lists of extensions select files. A valid configuration may have a list that
selects none, and then a check finds no problems.
-/

import HouseStyle.Proofs.Path.Extension
import HouseStyle.Proofs.Program.Check

namespace HouseStyle

namespace Selection

variable {config : ScannerConfig} {selection : Selection}

/-- The extensions of a selection are the listed ones in normalized form, without empty ones. -/
theorem extensions_of_ofConfig (built : ofConfig config = .ok selection) :
    selection.extensions =
      (config.extensions.map Path.normalizeExtension).filter (!·.isEmpty) := by
  obtain ⟨excluded, _, rest⟩ := bind_eq_ok_iff.mp built
  obtain ⟨_, done⟩ := check_bind_eq_ok_iff.mp rest
  rw [← Except.ok.inj done]

/-- Listed extensions without characters besides white space and dots are dropped. -/
theorem mem_extensions_iff (built : ofConfig config = .ok selection) {extension : Text} :
    extension ∈ selection.extensions ↔
      ∃ listed ∈ config.extensions, Path.normalizeExtension listed = extension ∧ extension ≠ [] := by
  rw [extensions_of_ofConfig built, List.mem_filter, List.mem_map]
  constructor
  · rintro ⟨⟨listed, member, same⟩, filled⟩
    exact ⟨listed, member, same, by simpa using filled⟩
  · rintro ⟨listed, member, same, filled⟩
    exact ⟨⟨listed, member, same⟩, by simpa using filled⟩

/-- A selection has an extension if a listed one is not empty in normalized form. -/
theorem extensions_ne_nil_iff (built : ofConfig config = .ok selection) :
    selection.extensions ≠ [] ↔
      ∃ listed ∈ config.extensions, Path.normalizeExtension listed ≠ [] := by
  rw [extensions_of_ofConfig built, Ne, List.filter_eq_nil_iff]
  simp

/-- A selection accepts the extension of some path if and only if one of the listed extensions is
filled and can be the extension of a file. -/
theorem exists_hasExtension_iff (built : ofConfig config = .ok selection) :
    (∃ path, Path.hasExtension selection.extensions path = true) ↔
      ∃ listed ∈ config.extensions, Path.normalizeExtension listed ≠ [] ∧
        Path.Nameable (Path.normalizeExtension listed) := by
  constructor
  · rintro ⟨path, accepted⟩
    obtain ⟨extension, found, member⟩ := Path.hasExtension_iff.mp accepted
    obtain ⟨listed, inConfig, same, filled⟩ := (mem_extensions_iff built).mp member
    have nameable := Path.nameable_lowerAscii_iff.mpr (Path.nameable_of_extension? found)
    exact ⟨listed, inConfig, same ▸ filled, same ▸ nameable⟩
  · rintro ⟨listed, inConfig, filled, nameable⟩
    have member := (mem_extensions_iff built).mpr ⟨listed, inConfig, rfl, filled⟩
    -- The name is spelled with the letters of the configuration, and their case does not count.
    have found := Path.extension?_fileName (Path.nameable_lowerAscii_iff.mp nameable)
    exact ⟨_, Path.hasExtension_iff.mpr ⟨_, found, member⟩⟩

/-- A selection that accepts no extension finds no files. -/
theorem select_eq_nil (rejects : ∀ path, Path.hasExtension selection.extensions path = false)
    (here : Folder) (user : Option UserRules) (root : Path) :
    here.select selection user root = [] := by
  have none_accepted (files : List FoundFile) :
      files.filter (fun file => selection.accepts file.path) = [] := by
    apply List.filter_eq_nil_iff.mpr
    intro file _
    simp [accepts, rejects]
  unfold Folder.select
  dsimp only
  rw [none_accepted, List.mergeSort_nil]

end Selection

namespace Program

/-- A valid configuration has a selection if its globs compile. The selection has an extension if and
only if the configuration lists one that is more than white space and dots, and it accepts the
extension of some path if and only if such an extension has no dot and no separator inside.
Otherwise a check reports nothing, whatever files there are. -/
theorem selects_iff_nameable {config : Config} (valid : config.validate = .ok ()) :
    ((∃ selection, Selection.ofConfig config.scanner = .ok selection) ↔ config.GlobsCompile) ∧
    ∀ selection, Selection.ofConfig config.scanner = .ok selection →
      (selection.extensions ≠ [] ↔
        ∃ listed ∈ config.scanner.extensions, Path.normalizeExtension listed ≠ []) ∧
      ((∃ path, Path.hasExtension selection.extensions path = true) ↔
        ∃ listed ∈ config.scanner.extensions, Path.normalizeExtension listed ≠ [] ∧
          Path.Nameable (Path.normalizeExtension listed)) ∧
      ((∀ listed ∈ config.scanner.extensions, Path.normalizeExtension listed ≠ [] →
          ¬ Path.Nameable (Path.normalizeExtension listed)) →
        ∀ workspace here, workspace.find? config.scanner.root = some (.folder here) →
          checkFiles workspace config = .ok {}) := by
  have isValid := Config.validate_eq_ok_iff.mp valid
  obtain ⟨linter, built⟩ := isValid.exists_linter
  refine ⟨isValid.exists_selection_iff, fun selection selected => ?_⟩
  have accepted := Selection.exists_hasExtension_iff selected
  refine ⟨Selection.extensions_ne_nil_iff selected, accepted, ?_⟩
  intro unusable workspace here found
  have rejects (path : Path) : Path.hasExtension selection.extensions path = false := by
    apply Bool.eq_false_iff.mpr
    intro accepts
    obtain ⟨listed, inConfig, filled, nameable⟩ := accepted.mp ⟨path, accepts⟩
    exact unusable listed inConfig filled nameable
  have scanned : workspace.scan selection config.scanner.gitignore config.scanner.root = .ok [] := by
    rw [Workspace.scan, found]
    exact congrArg Except.ok (Selection.select_eq_nil rejects _ _ _)
  rw [checkFiles, selected, built]
  simp only [bind, Except.bind, scanned]
  rfl

/-- The extension of a file has no dot inside. A configuration with such an extension only is valid,
and its selection is not empty, but it accepts no path. -/
theorem selects_iff_nameable_inner_dot :
    let config : Config :=
      { scanner := { extensions := [".tar.gz".toList] }, symbols := { extensions := [] } }
    let workspace : Workspace :=
      { top := .file "a.tar.gz".toList (.text "void f();\n".toList) .empty
        working := []
        userFolder := none }
    config.validate = .ok () ∧
      (∃ selection, Selection.ofConfig config.scanner = .ok selection ∧ selection.extensions ≠ [] ∧
        ¬ ∃ path, Path.hasExtension selection.extensions path = true) ∧
      checkFiles workspace config = .ok {} := by
  intro config workspace
  have valid : config.validate = .ok () := by decide +kernel
  obtain ⟨exists_iff, selects⟩ := selects_iff_nameable valid
  obtain ⟨selection, selected⟩ := exists_iff.mpr (Config.globsCompile_of_count_le (by decide))
  obtain ⟨filled, accepted, nothing⟩ := selects selection selected
  exact ⟨valid, ⟨selection, selected, filled.mpr (by decide), fun some => absurd (accepted.mp some)
    (by decide)⟩, nothing (by decide) workspace workspace.top (by decide +kernel)⟩

/-- An empty extension on the command line gives a valid configuration that selects no file. The
check then finds no problems, although there is one. -/
theorem not_selects_blank :
    let arguments := ["check".toList, "s".toList, "--no-config".toList, "--ext=".toList]
    let options : CheckOptions := { root := some "s".toList, extensions := some [[]] }
    let config := options.apply {}
    let workspace : Workspace :=
      { top := .folder "s".toList
          (.file "a.cpp".toList (.text "void f();\n".toList) .empty) .empty
        working := []
        userFolder := none }
    CommandLine.ofArguments arguments = .ok { noConfig := true, command := .check options } ∧
      config.validate = .ok () ∧
      (∃ selection, Selection.ofConfig config.scanner = .ok selection ∧ selection.extensions = [] ∧
        ¬ ∃ path, Path.hasExtension selection.extensions path = true) ∧
      (run false workspace arguments).code = 0 ∧
      (run false workspace arguments).output = "No problems found.\n".toList ∧
      (run false workspace (arguments.take 3)).code = 1 := by
  intro arguments options config workspace
  have valid : config.validate = .ok () := by decide +kernel
  have isValid := Config.validate_eq_ok_iff.mp valid
  obtain ⟨selection, selected⟩ :=
    isValid.exists_selection_iff.mpr (Config.globsCompile_of_count_le (by decide))
  have empty : selection.extensions = [] := by
    rw [Selection.extensions_of_ofConfig selected]
    decide
  have accepted := Selection.exists_hasExtension_iff selected
  exact ⟨by decide +kernel, valid, ⟨selection, selected, empty, fun some => absurd (accepted.mp some)
    (by decide)⟩, by decide +kernel, by decide +kernel, by decide +kernel⟩

end Program

end HouseStyle
