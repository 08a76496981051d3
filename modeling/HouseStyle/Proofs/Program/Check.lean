/-
This file proves how a check ends after its configuration has been found valid.
-/

import Mathlib.Control.Monad.Basic
import HouseStyle.Proofs.Config.Validity
import HouseStyle.Program

namespace HouseStyle

/-- The search for files fails only if its root is no folder. -/
theorem Workspace.scan_eq_error {workspace : Workspace} {selection : Selection}
    {useIgnoreFiles : Bool} {root : Path} {error : Error}
    (failed : workspace.scan selection useIgnoreFiles root = .error error) :
    error = .missingRoot root ∧ ∀ here, workspace.find? root ≠ some (.folder here) := by
  rw [scan] at failed
  split at failed
  next => contradiction
  next noFolder => exact ⟨(Except.error.inj failed).symm, noFolder⟩

namespace Program

variable {workspace : Workspace} {config : Config} {line : CommandLine} {options : CheckOptions}

/-- The end of a check with a valid configuration. -/
inductive CheckEnd (workspace : Workspace) (config : Config) : Outcome → Prop
  /-- The root is not the path of a folder. -/
  | missingRoot (noFolder : ∀ here, workspace.find? config.scanner.root ≠ some (.folder here)) :
      CheckEnd workspace config (fail workspace (.missingRoot config.scanner.root))
  /-- The report is made, but it cannot be written to its file. -/
  | unwritableReport {report : Report} (made : checkFiles workspace config = .ok report)
      (output : Text) {text : Text} {fault : WriteFault}
      (refused : workspace.write config.report.output text = .error fault) :
      CheckEnd workspace config
        { fail workspace (.unwritableReport config.report.output) with output }
  /-- The exit code tells whether the report has problems. -/
  | success {report : Report} (made : checkFiles workspace config = .ok report)
      {outcome : Outcome} (code : outcome.code = if report.hasProblems then 1 else 0)
      (silent : outcome.errors = []) :
      CheckEnd workspace config outcome

/-- A report that is made ends the check with its exit code, unless it cannot be written. -/
theorem checkEnd_finishCheck {report : Report} (made : checkFiles workspace config = .ok report)
    (terminal : Bool) (line : CommandLine) (options : CheckOptions) :
    CheckEnd workspace config (finishCheck terminal workspace line options config report) := by
  rw [finishCheck]
  split
  next => exact .success made rfl rfl
  next =>
    split
    next refused => exact .unwritableReport made _ refused
    next => exact .success made rfl rfl

/-- The configuration of a check is validated. -/
theorem validate_of_checkConfig {noConfig : Bool}
    (checked : checkConfig workspace noConfig options = .ok config) :
    config.validate = .ok () := by
  obtain ⟨loaded, _, rest⟩ := bind_eq_ok_iff.mp checked
  obtain ⟨passed, done⟩ := check_bind_eq_ok_iff.mp rest
  rw [← Except.ok.inj done]
  exact passed

/-- Without a configuration file the options change the default configuration. -/
theorem checkConfig_noConfig (valid : (options.apply {}).validate = .ok ()) :
    checkConfig workspace true options = .ok (options.apply {}) := by
  change (do (options.apply {}).validate; return options.apply {}) = Except.ok (options.apply {})
  rw [valid]
  rfl

/-- Everything that a valid configuration describes can be built if its globs compile. Then only the
search for files can fail. -/
theorem checkFiles_eq_error (valid : config.Valid) (compile : config.GlobsCompile) {error : Error}
    (failed : checkFiles workspace config = .error error) :
    error = .missingRoot config.scanner.root ∧
      ∀ here, workspace.find? config.scanner.root ≠ some (.folder here) := by
  obtain ⟨selection, selected⟩ := valid.exists_selection_iff.mpr compile
  obtain ⟨linter, built⟩ := valid.exists_linter
  rw [checkFiles, selected, built] at failed
  cases found : workspace.scan selection config.scanner.gitignore config.scanner.root with
  | ok files =>
      simp only [bind, Except.bind, found] at failed
      contradiction
  | error reason =>
      simp only [bind, Except.bind, found] at failed
      rw [← Except.error.inj failed]
      exact Workspace.scan_eq_error found

/-- The globs are compiled before the search for files. -/
theorem checkFiles_of_not_globsCompile (valid : config.Valid) (deep : ¬ config.GlobsCompile) :
    checkFiles workspace config =
      .error (.invalidGlob (List.intercalate ", ".toList config.scanner.exclude)) := by
  rw [checkFiles, valid.selection_of_not_globsCompile deep]
  rfl

/-- A check with a configuration makes its report and then finishes. -/
theorem check_of_checkConfig (terminal : Bool)
    (checked : checkConfig workspace line.noConfig options = .ok config) :
    check terminal workspace line options =
      match checkFiles workspace config with
      | .error error => fail workspace error
      | .ok report => finishCheck terminal workspace line options config report := by
  rw [check, checked]
  simp only [bind, Except.bind]
  cases checkFiles workspace config with
  | error error => rfl
  | ok report => rfl

/-- A configuration that is not valid ends the check. -/
theorem check_of_checkConfig_error (terminal : Bool) {error : Error}
    (failed : checkConfig workspace line.noConfig options = .error error) :
    check terminal workspace line options = fail workspace error := by
  rw [check, failed]
  rfl

/-- A command line for a check runs the check. -/
theorem run_check (terminal : Bool) (workspace : Workspace) {arguments : List Text}
    (read : CommandLine.ofArguments arguments = .ok line) (isCheck : line.command = .check options) :
    run terminal workspace arguments = check terminal workspace line options := by
  rw [run, read]
  simp only [runCommand, isCheck]

/-- A check whose globs compile ends in one of the three ways. -/
theorem checkEnd_check (terminal : Bool) (compile : config.GlobsCompile)
    (checked : checkConfig workspace line.noConfig options = .ok config) :
    CheckEnd workspace config (check terminal workspace line options) := by
  have valid := Config.validate_eq_ok_iff.mp (validate_of_checkConfig checked)
  rw [check_of_checkConfig terminal checked]
  cases result : checkFiles workspace config with
  | error error =>
      obtain ⟨rfl, noFolder⟩ := checkFiles_eq_error valid compile result
      exact .missingRoot noFolder
  | ok report => exact checkEnd_finishCheck result terminal line options

/-- A check whose globs do not compile names all of them. -/
theorem run_of_not_globsCompile (terminal : Bool) {arguments : List Text}
    (read : CommandLine.ofArguments arguments = .ok line) (isCheck : line.command = .check options)
    (checked : checkConfig workspace line.noConfig options = .ok config)
    (deep : ¬ config.GlobsCompile) :
    run terminal workspace arguments = fail workspace
      (.invalidGlob (List.intercalate ", ".toList config.scanner.exclude)) := by
  have valid := Config.validate_eq_ok_iff.mp (validate_of_checkConfig checked)
  rw [run_check terminal workspace read isCheck, check_of_checkConfig terminal checked,
    checkFiles_of_not_globsCompile valid deep]

/-- All rules can be built from a valid configuration, whatever its tag is. Its selection of files
can be built if and only if its globs compile, which is so at least for globs with 81 closing braces
or fewer. A check with such a configuration then fails only if its root is missing or its report
cannot be written. Otherwise it always fails, with all globs in its message. -/
theorem checkEnd_of_validate (valid : config.validate = .ok ()) :
    ((∃ selection, Selection.ofConfig config.scanner = .ok selection) ↔ config.GlobsCompile) ∧
    ((∀ pattern ∈ config.scanner.exclude, pattern.count '\x7d' ≤ 81) → config.GlobsCompile) ∧
    (∃ linter, Linter.ofConfig config = .ok linter) ∧
    ∀ terminal workspace arguments line options,
      CommandLine.ofArguments arguments = .ok line → line.command = .check options →
      checkConfig workspace line.noConfig options = .ok config →
      (config.GlobsCompile → CheckEnd workspace config (run terminal workspace arguments)) ∧
      (¬ config.GlobsCompile → run terminal workspace arguments = fail workspace
        (.invalidGlob (List.intercalate ", ".toList config.scanner.exclude))) := by
  have isValid := Config.validate_eq_ok_iff.mp valid
  refine ⟨isValid.exists_selection_iff, Config.globsCompile_of_count_le, isValid.exists_linter, ?_⟩
  intro terminal workspace arguments line options read isCheck checked
  refine ⟨fun compile => ?_, run_of_not_globsCompile terminal read isCheck checked⟩
  rw [run_check terminal workspace read isCheck]
  exact checkEnd_check terminal compile checked

/-- The tag of the configuration file has characters with a meaning in expressions. The report
cannot be written, because its path is that of a folder. -/
theorem checkEnd_of_validate_special_tag :
    let config : Config := { documentation := { paramTag := "\\p(*[".toList } }
    let workspace : Workspace :=
      { top := .file ".style-guard.toml".toList
          (.text "[documentation]\nparam_tag = '\\p(*['\n".toList)
          (.folder "problems.txt".toList .empty .empty)
        working := []
        userFolder := none }
    config.validate = .ok () ∧ (∃ linter, Linter.ofConfig config = .ok linter) ∧
      CommandLine.ofArguments ["check".toList] = .ok { command := .check {} } ∧
      checkConfig workspace false {} = .ok config ∧
      CheckEnd workspace config (run false workspace ["check".toList]) ∧
      (run false workspace ["check".toList]).errors =
        "Error: Failed to write report: problems.txt\n".toList := by
  intro config workspace
  have valid : config.validate = .ok () := by decide +kernel
  have read : CommandLine.ofArguments ["check".toList] = .ok { command := .check {} } := by
    decide +kernel
  have checked : checkConfig workspace false {} = .ok config := by decide +kernel
  obtain ⟨-, few, linter, runs⟩ := checkEnd_of_validate valid
  obtain ⟨checkEnd, -⟩ := runs false workspace ["check".toList] _ {} read rfl checked
  have compile : config.GlobsCompile := few (by decide)
  exact ⟨valid, linter, read, checked, checkEnd compile, by decide +kernel⟩

/-- A letter in 300 pairs of braces is a valid glob that does not compile. A check that excludes it
fails, although the same check without it finds no problems. -/
theorem not_checkEnd_nested :
    let nested := Glob.nested 300
    let arguments := ["check".toList, "s".toList, "--no-config".toList, "--no-report".toList]
    let options : CheckOptions :=
      { root := some "s".toList, exclude := [nested], noReport := true }
    let config := options.apply {}
    let workspace : Workspace :=
      { top := .folder "s".toList (.file "a.cpp".toList (.text "\n".toList) .empty) .empty
        working := []
        userFolder := none }
    config.validate = .ok () ∧
      (¬ ∃ selection, Selection.ofConfig config.scanner = .ok selection) ∧
      CommandLine.ofArguments (arguments ++ ["-x".toList, nested]) =
        .ok { noConfig := true, command := .check options } ∧
      checkConfig workspace true options = .ok config ∧
      (run false workspace (arguments ++ ["-x".toList, nested])).code = 2 ∧
      (run false workspace (arguments ++ ["-x".toList, nested])).errors =
        "Error: Invalid glob pattern: **/.git/**, ".toList ++ nested ++ ['\n'] ∧
      (run false workspace arguments).code = 0 := by
  intro nested arguments options config workspace
  have valid : config.validate = .ok () := by decide +kernel
  have checked : checkConfig workspace true options = .ok config := checkConfig_noConfig valid
  have read : CommandLine.ofArguments (arguments ++ ["-x".toList, nested]) =
      .ok { noConfig := true, command := .check options } := by decide +kernel
  have listed : Glob.nested 300 ∈ config.scanner.exclude :=
    List.mem_append_right _ List.mem_cons_self
  have deep : ¬ config.GlobsCompile := Config.not_globsCompile_nested (by decide) listed
  have unselected := (Config.validate_eq_ok_iff.mp valid).exists_selection_iff.not.mpr deep
  have failed := run_of_not_globsCompile false read rfl checked deep
  exact ⟨valid, unselected, read, checked, congrArg Outcome.code failed,
    (congrArg Outcome.errors failed).trans (by decide +kernel), by decide +kernel⟩

end Program

end HouseStyle
