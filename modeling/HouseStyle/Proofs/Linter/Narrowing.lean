/-
This file proves that a list of extensions on the command line only selects files. What a check
finds in a file that is still selected does not change.
-/

import HouseStyle.Proofs.Command.Override
import HouseStyle.Proofs.Linter.Sequence
import HouseStyle.Proofs.Program.Selection
import HouseStyle.Proofs.Report.Collection

namespace HouseStyle

/-- A scan finds only files with a selected extension. -/
theorem Workspace.hasExtension_of_mem_scan {workspace : Workspace} {selection : Selection}
    {useIgnoreFiles : Bool} {root : Path} {files : List FoundFile} {file : FoundFile}
    (found : workspace.scan selection useIgnoreFiles root = .ok files) (member : file ∈ files) :
    Path.hasExtension selection.extensions file.path = true := by
  rw [scan] at found
  split at found
  next here _ =>
    obtain rfl := Except.ok.inj found
    have accepted := (List.mem_filter.mp (List.mem_mergeSort.mp member)).2
    rw [Selection.accepts, Bool.and_eq_true] at accepted
    exact accepted.1
  next => contradiction

/-- What a selection accepts has one of the listed extensions. -/
theorem Selection.hasExtension_of_ofConfig {config : ScannerConfig} {selection : Selection}
    (built : ofConfig config = .ok selection) {path : Path}
    (accepted : Path.hasExtension selection.extensions path = true) :
    Path.hasExtension (config.extensions.map Path.normalizeExtension) path = true := by
  obtain ⟨extension, found, member⟩ := Path.hasExtension_iff.mp accepted
  rw [extensions_of_ofConfig built] at member
  exact Path.hasExtension_iff.mpr ⟨extension, found, (List.mem_filter.mp member).1⟩

namespace Linter

variable {config : Config} {linter : Linter}

/-- The linter for files with some extensions. Of the symbol extensions it keeps those that are among
them. -/
def narrowed (linter : Linter) (extensions : List Text) : Linter :=
  { linter with
    symbolExtensions := linter.symbolExtensions.filter
      (extensions.map Path.normalizeExtension).contains }

/-- With extensions on the command line the same rules are built for fewer files. -/
theorem ofConfig_apply_extensions (built : ofConfig config = .ok linter) (extensions : List Text) :
    ofConfig (({ extensions := some extensions } : CheckOptions).apply config) =
      .ok (linter.narrowed extensions) := by
  obtain ⟨rules, rulesBuilt, rfl⟩ := ofConfig_eq_ok_iff.mp built
  refine ofConfig_eq_ok_iff.mpr ⟨rules, rulesBuilt, ?_⟩
  rw [narrowed, List.filter_map]
  rfl

variable {extensions : List Text}

/-- A file with one of the extensions keeps its symbols. -/
theorem check_narrowed (linter : Linter) {path : Path}
    (given : Path.hasExtension (extensions.map Path.normalizeExtension) path = true) (text : Text) :
    (linter.narrowed extensions).check path text = linter.check path text := by
  obtain ⟨extension, found, member⟩ := Path.hasExtension_iff.mp given
  have keeps : Path.hasExtension (linter.narrowed extensions).symbolExtensions path =
      Path.hasExtension linter.symbolExtensions path := by
    rw [Bool.eq_iff_iff, Path.hasExtension_iff, Path.hasExtension_iff]
    simp only [found, Option.some.injEq, exists_eq_left', narrowed, List.mem_filter,
      List.contains_iff_mem, member, and_true]
  simp only [check, source, keeps]
  rfl

/-- A file with one of the extensions has the same problems as before. -/
theorem addition_narrowed (linter : Linter) {file : FoundFile}
    (given : Path.hasExtension (extensions.map Path.normalizeExtension) file.path = true) :
    (linter.narrowed extensions).addition file = linter.addition file := by
  have same : (linter.narrowed extensions).checkFile file = linter.checkFile file := by
    rw [checkFile, checkFile]
    cases file.content with
    | text text => exact linter.check_narrowed given text
    | binary => rfl
  rw [addition, addition, same]
  rfl

/-- A report on such files does not change. -/
theorem report_narrowed (linter : Linter) {files : List FoundFile}
    (given : ∀ file ∈ files,
      Path.hasExtension (extensions.map Path.normalizeExtension) file.path = true) :
    (linter.narrowed extensions).report files = linter.report files := by
  rw [report_eq_addAll, report_eq_addAll,
    List.map_congr_left fun file member => linter.addition_narrowed (given file member)]

/-- A list of extensions keeps the problems of every file with one of these extensions. A check with
such a list is the report of the linter without it on the files that the list selects. -/
theorem check_apply_extensions (built : ofConfig config = .ok linter) (extensions : List Text) :
    let narrowed := ({ extensions := some extensions } : CheckOptions).apply config
    ∃ narrow, ofConfig narrowed = .ok narrow ∧
      (∀ path text, Path.hasExtension (extensions.map Path.normalizeExtension) path = true →
        narrow.check path text = linter.check path text ∧
          narrow.reports path = linter.reports path) ∧
      ∀ workspace selection, Selection.ofConfig narrowed.scanner = .ok selection →
        Program.checkFiles workspace narrowed =
          (workspace.scan selection config.scanner.gitignore config.scanner.root).map
            linter.report := by
  intro narrowed
  have narrowBuilt : ofConfig narrowed = .ok (linter.narrowed extensions) :=
    ofConfig_apply_extensions built extensions
  refine ⟨_, narrowBuilt, fun path text given => ⟨linter.check_narrowed given text, rfl⟩, ?_⟩
  intro workspace selection selected
  rw [Program.checkFiles, selected, narrowBuilt]
  show (workspace.scan selection config.scanner.gitignore config.scanner.root).map
    (linter.narrowed extensions).report = _
  cases found : workspace.scan selection config.scanner.gitignore config.scanner.root with
  | error reason => rfl
  | ok files =>
      refine congrArg Except.ok (linter.report_narrowed fun file member => ?_)
      exact Selection.hasExtension_of_ofConfig selected
        (Workspace.hasExtension_of_mem_scan found member)

/-- Three files have a function without documentation. The list selects one of them, whose extension
is written in another way, and the check finds in it what it finds without the list. -/
theorem check_apply_extensions_one_of_three :
    let extensions := [".CPP".toList, "txt".toList]
    let linter : Linter :=
      { rules := [.lineLength 80, .ordering {}, .spacing 2, .documentation .standard]
        symbolExtensions := ["cpp".toList]
        frameworks := ["allegro".toList]
        unreported := ({} : ReportConfig).exclude }
    let narrowed := ({ extensions := some extensions } : CheckOptions).apply {}
    let text := "void f();\n".toList
    let workspace : Workspace :=
      { top := .file "a.h".toList (.text text) (.file "b.Cpp".toList (.text text)
          (.file "c.hpp".toList (.text text) .empty))
        working := []
        userFolder := none }
    ofConfig {} = .ok linter ∧
      (∃ narrow, ofConfig narrowed = .ok narrow ∧
        narrow.check "b.Cpp".toList text = linter.check "b.Cpp".toList text) ∧
      (linter.check "b.Cpp".toList text).map Problem.kind = [.missingDocumentation] ∧
      ∃ selection, Selection.ofConfig narrowed.scanner = .ok selection ∧
        Program.checkFiles workspace narrowed =
          (workspace.scan selection false ".".toList).map linter.report := by
  intro extensions linter narrowed text workspace
  have built : ofConfig {} = .ok linter := rfl
  obtain ⟨narrow, narrowBuilt, same, checks⟩ := check_apply_extensions built extensions
  exact ⟨built, ⟨narrow, narrowBuilt, (same _ text (by decide)).1⟩, by decide +kernel,
    ⟨_, rfl, checks workspace _ rfl⟩⟩

end Linter

end HouseStyle
