/-
This file proves that the options for the presentation of a check have no effect on its exit code, its
errors and its files.
-/

import HouseStyle.Proofs.Folder.Write
import HouseStyle.Proofs.Program.Check
import HouseStyle.Proofs.Report.Colors

namespace HouseStyle.Program

/-- Two checks of the same files end alike, whatever they print. The second one has a format of its
own. -/
inductive EndAlike (workspace : Workspace) (noConfig : Bool) (options : CheckOptions)
    (format : Format) : Outcome → Outcome → Prop
  /-- Both fail with the same error. -/
  | failure (error : Error) (output otherOutput : Text) :
      EndAlike workspace noConfig options format { fail workspace error with output }
        { fail workspace error with output := otherOutput }
  /-- The report is not stored. -/
  | unstored (report : Report) (output otherOutput : Text) (unwanted : options.noReport = true) :
      EndAlike workspace noConfig options format { code := checkCode report, output, workspace }
        { code := checkCode report, output := otherOutput, workspace }
  /-- The same report is stored in the same file. -/
  | stored {config : Config} {report : Report} {changed otherChanged : Workspace}
      (checked : checkConfig workspace noConfig options = .ok config)
      (made : checkFiles workspace config = .ok report)
      (written : workspace.write config.report.output (report.write options.format false) =
        .ok changed)
      (otherWritten : workspace.write config.report.output (report.write format false) =
        .ok otherChanged)
      (output otherOutput : Text) (wanted : options.noReport = false) :
      EndAlike workspace noConfig options format
        { code := checkCode report, output, workspace := changed }
        { code := checkCode report, output := otherOutput, workspace := otherChanged }

section Presentation

variable {workspace : Workspace} {line other : CommandLine} {options : CheckOptions}
  {config : Config} {report : Report}

/-- A check that completes does not have the exit code of a failure. -/
theorem checkCode_ne_two (report : Report) : checkCode report ≠ 2 := by
  rw [checkCode]
  split <;> decide

/-- The format is no part of the configuration. -/
theorem checkConfig_format (workspace : Workspace) (noConfig : Bool) (options : CheckOptions)
    (format : Format) :
    checkConfig workspace noConfig { options with format } =
      checkConfig workspace noConfig options :=
  rfl

/-- Two checks with the same report end alike, whatever their presentation is. -/
theorem endAlike_finishCheck (terminal otherTerminal : Bool) (line other : CommandLine)
    (format : Format)
    (checked : checkConfig workspace line.noConfig options = .ok config)
    (made : checkFiles workspace config = .ok report) :
    EndAlike workspace line.noConfig options format
      (finishCheck terminal workspace line options config report)
      (finishCheck otherTerminal workspace other { options with format } config report) := by
  simp only [finishCheck]
  cases wanted : options.noReport with
  | true => exact .unstored report _ _ wanted
  | false =>
      cases written : workspace.write config.report.output (report.write options.format false) with
      | error fault =>
          simp only [Workspace.write_eq_error written]
          exact .failure _ _ _
      | ok changed =>
          cases otherWritten : workspace.write config.report.output (report.write format false) with
          | error fault =>
              rw [Workspace.write_eq_error otherWritten] at written
              contradiction
          | ok otherChanged => exact .stored checked made written otherWritten _ _ wanted

/-- Two checks with the same source of their configuration end alike. -/
theorem endAlike_check (terminal otherTerminal : Bool) (options : CheckOptions) (format : Format)
    (sameSource : other.noConfig = line.noConfig) :
    EndAlike workspace line.noConfig options format (check terminal workspace line options)
      (check otherTerminal workspace other { options with format }) := by
  have sameConfig : checkConfig workspace other.noConfig { options with format } =
      checkConfig workspace line.noConfig options := by
    rw [checkConfig_format, sameSource]
  cases checked : checkConfig workspace line.noConfig options with
  | error error =>
      rw [check_of_checkConfig_error terminal checked,
        check_of_checkConfig_error otherTerminal (sameConfig.trans checked)]
      exact .failure error [] []
  | ok config =>
      rw [check_of_checkConfig terminal checked,
        check_of_checkConfig otherTerminal (sameConfig.trans checked)]
      cases made : checkFiles workspace config with
      | error error => exact .failure error [] []
      | ok report => exact endAlike_finishCheck terminal otherTerminal line other format checked made

end Presentation

/-- Two command lines that differ only in the options for verbosity, silence, colours and the format
ask for the same check. It has the same exit code and the same errors. Either no file is written, or
the same report is written to the same path, without colours. With the same format the files are
the same. -/
theorem run_presentation {arguments otherArguments : List Text} {line : CommandLine}
    {options : CheckOptions} {verbose : Nat} {quiet : Bool} {color : ColorChoice} {format : Format}
    (read : CommandLine.ofArguments arguments = .ok line) (isCheck : line.command = .check options)
    (otherRead : CommandLine.ofArguments otherArguments =
      .ok { line with verbose, quiet, color, command := .check { options with format } })
    (terminal otherTerminal : Bool) (workspace : Workspace) :
    let outcome := run terminal workspace arguments
    let other := run otherTerminal workspace otherArguments
    outcome.code = other.code ∧ outcome.errors = other.errors ∧
    (options.format = format → outcome.workspace = other.workspace) ∧
    (outcome.code = 2 ∨ options.noReport = true →
      outcome.workspace = workspace ∧ other.workspace = workspace) ∧
    (outcome.code ≠ 2 → options.noReport = false → ∃ config report,
      checkConfig workspace line.noConfig options = .ok config ∧
      checkFiles workspace config = .ok report ∧
      workspace.write config.report.output (report.write options.format false) =
        .ok outcome.workspace ∧
      workspace.write config.report.output (report.write format false) = .ok other.workspace ∧
      ∀ format, (report.write format false).count '\x1b' ≤ report.escapeCount) := by
  intro outcome other
  have alike : EndAlike workspace line.noConfig options format outcome other := by
    simp only [outcome, other]
    rw [run_check terminal workspace read isCheck, run_check otherTerminal workspace otherRead rfl]
    exact endAlike_check terminal otherTerminal options format rfl
  generalize outcome = first at alike ⊢
  generalize other = second at alike ⊢
  cases alike with
  | failure error output otherOutput =>
      exact ⟨rfl, rfl, fun _ => rfl, fun _ => ⟨rfl, rfl⟩, fun noFailure => absurd rfl noFailure⟩
  | unstored report output otherOutput unwanted =>
      exact ⟨rfl, rfl, fun _ => rfl, fun _ => ⟨rfl, rfl⟩, by simp [unwanted]⟩
  | stored checked made written otherWritten output otherOutput wanted =>
      refine ⟨rfl, rfl, ?_, ?_, fun _ _ => ⟨_, _, checked, made, written, otherWritten,
        fun format => Report.count_write_plain format _⟩⟩
      · rintro rfl
        exact Except.ok.inj (written.symm.trans otherWritten)
      · rintro (failed | unwanted)
        · exact absurd failed (checkCode_ne_two _)
        · rw [wanted] at unwanted
          contradiction

/-- A report in colours goes to the terminal and not to its file. Without output the file is the same,
and a report in the other format goes to the same path. -/
theorem run_presentation_undocumented :
    let workspace : Workspace :=
      { top := .file "a.cpp".toList (.text "void f();\n".toList) .empty
        working := []
        userFolder := none }
    let colored := run true workspace ["--color=always".toList, "check".toList]
    let silent := run false workspace ["check".toList, "-qvv".toList]
    let other := run false workspace ["check".toList, "--format".toList, "json".toList]
    colored.code = 1 ∧ colored.output.count '\x1b' = 4 ∧ silent.output = [] ∧
      silent.code = colored.code ∧ silent.workspace = colored.workspace ∧
      colored.workspace.find? "problems.txt".toList =
        some (.file (.text "./a.cpp\n  Function without documentation: 1    f\n".toList)) ∧
      other.code = colored.code ∧ other.workspace.top ≠ colored.workspace.top ∧
      ∃ path text otherText, workspace.write path text = .ok colored.workspace ∧
        workspace.write path otherText = .ok other.workspace := by
  intro workspace colored silent other
  have read : CommandLine.ofArguments ["--color=always".toList, "check".toList] =
      .ok { color := .always, command := .check {} } := by decide +kernel
  obtain ⟨silentCode, -, same, -, -⟩ := run_presentation read rfl
    (show CommandLine.ofArguments ["check".toList, "-qvv".toList] =
      .ok { verbose := 2, quiet := true, command := .check {} } by decide +kernel)
    true false workspace
  obtain ⟨otherCode, -, -, -, stored⟩ := run_presentation read rfl
    (show CommandLine.ofArguments ["check".toList, "--format".toList, "json".toList] =
      .ok { command := .check { format := .json } } by decide +kernel)
    true false workspace
  have isOne : colored.code = 1 := by decide +kernel
  obtain ⟨config, report, -, -, written, otherWritten, -⟩ :=
    stored (isOne.trans_ne (by decide)) rfl
  exact ⟨isOne, by decide +kernel, by decide +kernel, silentCode.symm, (same rfl).symm,
    by decide +kernel, otherCode.symm, by decide +kernel, _, _, _, written, otherWritten⟩

end HouseStyle.Program
