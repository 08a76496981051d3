/-
This file proves what a run changes and which exit code it has. A run that fails changes nothing, and
a run that succeeds writes at most one file.
-/

import HouseStyle.Proofs.Folder.Write
import HouseStyle.Proofs.Program.Check

namespace HouseStyle.Program

/-- The file that a command writes unless it fails, with its text: the report of a check, if it is
wanted, or a new configuration file. -/
inductive Target (workspace : Workspace) (line : CommandLine) : Path → Text → Prop
  | report {options : CheckOptions} {config : Config} {report : Report}
      (isCheck : line.command = .check options)
      (checked : checkConfig workspace line.noConfig options = .ok config)
      (made : checkFiles workspace config = .ok report) (wanted : options.noReport = false) :
      Target workspace line config.report.output (report.write options.format false)
  | template {path : Path} {force : Bool} (isInit : line.command = .init path force) :
      Target workspace line path Config.template

/-- A check completes with a report: the report can be made, and it can be written if it is wanted. -/
inductive Completes (workspace : Workspace) (line : CommandLine) (report : Report) : Prop
  | intro {options : CheckOptions} {config : Config}
      (isCheck : line.command = .check options)
      (checked : checkConfig workspace line.noConfig options = .ok config)
      (made : checkFiles workspace config = .ok report)
      (stored : options.noReport = true ∨ ∃ changed,
        workspace.write config.report.output (report.write options.format false) = .ok changed)

/-- A check completes with a report that has problems. -/
def Finds (workspace : Workspace) (line : CommandLine) : Prop :=
  ∃ report, Completes workspace line report ∧ report.hasProblems = true

/-- The exit code of a run that does not fail tells whether problems are found. -/
structure Tells (outcome : Outcome) (finds : Prop) : Prop where
  succeeds : outcome.code ≤ 1
  code_eq_one_iff : outcome.code = 1 ↔ finds

/-- The end of a run that may write certain files and may find problems. -/
inductive Effect (workspace : Workspace) (target : Path → Text → Prop) (finds : Prop)
    (outcome : Outcome) : Prop
  | failure (code : outcome.code = 2) (kept : outcome.workspace = workspace) (incomplete : ¬ finds)
  /-- There is nothing to write. -/
  | quiet (code : Tells outcome finds) (kept : outcome.workspace = workspace)
      (noTarget : ∀ path text, ¬ target path text)
  | write (code : Tells outcome finds) {path : Path} {text : Text} (isTarget : target path text)
      (written : workspace.write path text = .ok outcome.workspace)

section Line

variable {workspace : Workspace} {line : CommandLine} {options : CheckOptions} {config : Config}
  {report : Report}

/-- Commands other than checks and new configurations write no file. -/
theorem not_target (noCheck : ∀ options, line.command ≠ .check options)
    (noInit : ∀ path force, line.command ≠ .init path force) (path : Path) (text : Text) :
    ¬ Target workspace line path text := by
  intro isTarget
  cases isTarget with
  | report isCheck => exact noCheck _ isCheck
  | template isInit => exact noInit _ _ isInit

/-- Commands other than checks find no problems. -/
theorem not_finds (noCheck : ∀ options, line.command ≠ .check options) : ¬ Finds workspace line := by
  rintro ⟨report, ⟨isCheck, -, -, -⟩, -⟩
  exact noCheck _ isCheck

/-- A check that fails before its report is made finds nothing. -/
theorem not_finds_of_error (isCheck : line.command = .check options)
    (failed : ∀ config report, checkConfig workspace line.noConfig options = .ok config →
      checkFiles workspace config ≠ .ok report) : ¬ Finds workspace line := by
  rintro ⟨report, ⟨isCheck', checked, made, -⟩, -⟩
  obtain rfl := Command.check.inj (isCheck.symm.trans isCheck')
  exact failed _ report checked made

/-- The configuration and the report of a check are determined by its command line. -/
theorem finds_iff (isCheck : line.command = .check options)
    (checked : checkConfig workspace line.noConfig options = .ok config)
    (made : checkFiles workspace config = .ok report) :
    Finds workspace line ↔
      report.hasProblems = true ∧ (options.noReport = true ∨ ∃ changed,
        workspace.write config.report.output (report.write options.format false) = .ok changed) := by
  constructor
  · rintro ⟨other, ⟨isCheck', checked', made', stored⟩, hasProblems⟩
    obtain rfl := Command.check.inj (isCheck.symm.trans isCheck')
    obtain rfl := Except.ok.inj (checked.symm.trans checked')
    obtain rfl := Except.ok.inj (made.symm.trans made')
    exact ⟨hasProblems, stored⟩
  · rintro ⟨hasProblems, stored⟩
    exact ⟨report, ⟨isCheck, checked, made, stored⟩, hasProblems⟩

/-- A check without a report writes no file. -/
theorem not_target_of_noReport (isCheck : line.command = .check options)
    (unwanted : options.noReport = true) (path : Path) (text : Text) :
    ¬ Target workspace line path text := by
  intro isTarget
  cases isTarget with
  | report isCheck' _ _ wanted =>
      obtain rfl := Command.check.inj (isCheck.symm.trans isCheck')
      rw [unwanted] at wanted
      contradiction
  | template isInit =>
      rw [isCheck] at isInit
      contradiction

end Line

section Commands

variable {terminal : Bool} {workspace : Workspace} {line : CommandLine} {options : CheckOptions}
  {config : Config} {report : Report} {target : Path → Text → Prop} {finds : Prop}

/-- A run that finds nothing has the exit code 0. -/
theorem tells_of_code_eq_zero {outcome : Outcome} (code : outcome.code = 0) (noFinds : ¬ finds) :
    Tells outcome finds where
  succeeds := by simp [code]
  code_eq_one_iff := by simp [code, noFinds]

/-- The exit code of a check tells whether there are problems. -/
theorem tells_checkCode {outcome : Outcome} (code : outcome.code = checkCode report)
    (same : finds ↔ report.hasProblems = true) : Tells outcome finds where
  succeeds := by
    rw [code, checkCode]
    split <;> decide
  code_eq_one_iff := by simp [code, checkCode, same]

/-- Printing the symbols of a file writes nothing. -/
theorem effect_symbols (noTarget : ∀ path text, ¬ target path text) (noFinds : ¬ finds)
    (file : Path) (config : Option Path) (format : Format) :
    Effect workspace target finds (symbols terminal workspace line file config format) := by
  rw [symbols]
  split
  next => exact .failure rfl rfl noFinds
  next => exact .quiet (tells_of_code_eq_zero rfl noFinds) rfl noTarget

/-- The validation of a configuration writes nothing. -/
theorem effect_validate (noTarget : ∀ path text, ¬ target path text) (noFinds : ¬ finds)
    (path : Path) : Effect workspace target finds (validate workspace path) := by
  rw [validate]
  split
  next => exact .failure rfl rfl noFinds
  next => exact .quiet (tells_of_code_eq_zero rfl noFinds) rfl noTarget

/-- Printing a configuration writes nothing. -/
theorem effect_show (noTarget : ∀ path text, ¬ target path text) (noFinds : ¬ finds)
    (noConfig : Bool) (path : Option Path) (format : Format) :
    Effect workspace target finds («show» workspace noConfig path format) := by
  rw [«show»]
  split
  next => exact .failure rfl rfl noFinds
  next => exact .quiet (tells_of_code_eq_zero rfl noFinds) rfl noTarget

/-- A command line that is refused writes nothing. -/
theorem effect_refuse (noTarget : ∀ path text, ¬ target path text) (noFinds : ¬ finds)
    (fault : UsageFault) : Effect workspace target finds (refuse workspace fault) := by
  cases fault with
  | help | version => exact .quiet (tells_of_code_eq_zero rfl noFinds) rfl noTarget
  | _ => exact .failure rfl rfl noFinds

/-- A new configuration is the template at its path. -/
theorem effect_init {path : Path} (isTarget : target path Config.template) (noFinds : ¬ finds)
    (force : Bool) : Effect workspace target finds (init workspace path force) := by
  rw [init]
  split
  next => exact .failure rfl rfl noFinds
  next =>
    split
    next => exact .failure rfl rfl noFinds
    next changed written => exact .write (tells_of_code_eq_zero rfl noFinds) isTarget written

/-- A check writes its report or nothing. -/
theorem effect_finishCheck (isCheck : line.command = .check options)
    (checked : checkConfig workspace line.noConfig options = .ok config)
    (made : checkFiles workspace config = .ok report) :
    Effect workspace (Target workspace line) (Finds workspace line)
      (finishCheck terminal workspace line options config report) := by
  have same := finds_iff isCheck checked made
  rw [finishCheck]
  split
  next unwanted =>
    exact .quiet (tells_checkCode rfl (by simp [same, unwanted])) rfl
      (not_target_of_noReport isCheck unwanted)
  next wanted =>
    split
    next refused => exact .failure rfl rfl (by simp [same, wanted, refused])
    next changed written =>
      exact .write (tells_checkCode rfl (by simp [same, written]))
        (.report isCheck checked made (Bool.eq_false_iff.mpr wanted)) written

/-- A check that fails before its report is made changes nothing. -/
theorem effect_check (isCheck : line.command = .check options) :
    Effect workspace (Target workspace line) (Finds workspace line)
      (check terminal workspace line options) := by
  cases checked : checkConfig workspace line.noConfig options with
  | error error =>
      rw [check, checked]
      exact .failure rfl rfl (not_finds_of_error isCheck (by simp [checked]))
  | ok config =>
      rw [check_of_checkConfig terminal checked]
      cases made : checkFiles workspace config with
      | error error =>
          refine .failure rfl rfl (not_finds_of_error isCheck ?_)
          intro other report checked'
          obtain rfl := Except.ok.inj (checked.symm.trans checked')
          simp [made]
      | ok report => exact effect_finishCheck isCheck checked made

end Commands

/-- Each command has its own effect. -/
theorem effect_runCommand (terminal : Bool) (workspace : Workspace) (line : CommandLine) :
    Effect workspace (Target workspace line) (Finds workspace line)
      (runCommand terminal workspace line) := by
  rw [runCommand]
  split
  next options isCheck => exact effect_check isCheck
  next isSymbols =>
    exact effect_symbols (not_target (by simp [isSymbols]) (by simp [isSymbols]))
      (not_finds (by simp [isSymbols])) _ _ _
  next isInit => exact effect_init (.template isInit) (not_finds (by simp [isInit])) _
  next isValidate =>
    exact effect_validate (not_target (by simp [isValidate]) (by simp [isValidate]))
      (not_finds (by simp [isValidate])) _
  next isShow =>
    exact effect_show (not_target (by simp [isShow]) (by simp [isShow]))
      (not_finds (by simp [isShow])) _ _ _

/-- Every run has one of three exit codes. A run that fails changes nothing. Every other run writes
the file of its command and no other file, and its exit code tells whether a check has found
problems. -/
theorem run_effect (terminal : Bool) (workspace : Workspace) (arguments : List Text) :
    let outcome := run terminal workspace arguments
    let target path text :=
      ∃ line, CommandLine.ofArguments arguments = .ok line ∧ Target workspace line path text
    (outcome.code = 0 ∨ outcome.code = 1 ∨ outcome.code = 2) ∧
    (outcome.code = 2 → outcome.workspace = workspace) ∧
    (outcome.code ≠ 2 →
      (outcome.workspace = workspace ∧ ∀ path text, ¬ target path text) ∨
        ∃ path text names, target path text ∧ workspace.locate path = .ok names ∧
          workspace.WritesOnly names text outcome.workspace) ∧
    (outcome.code = 1 ↔
      ∃ line, CommandLine.ofArguments arguments = .ok line ∧ Finds workspace line) := by
  intro outcome target
  have effect : Effect workspace target
      (∃ line, CommandLine.ofArguments arguments = .ok line ∧ Finds workspace line) outcome := by
    simp only [target, outcome, run]
    cases CommandLine.ofArguments arguments with
    | error fault => exact effect_refuse (by simp) (by simp) fault
    | ok line => simpa using effect_runCommand terminal workspace line
  cases effect with
  | failure code kept incomplete => simp [code, kept, incomplete]
  | quiet code kept noTarget =>
      have succeeds := code.succeeds
      exact ⟨by omega, fun _ => kept, fun _ => Or.inl ⟨kept, noTarget⟩, code.code_eq_one_iff⟩
  | write code isTarget written =>
      have succeeds := code.succeeds
      obtain ⟨names, located, writesOnly⟩ := Workspace.writesOnly_write written
      exact ⟨by omega, by omega, fun _ => Or.inr ⟨_, _, names, isTarget, located, writesOnly⟩,
        code.code_eq_one_iff⟩

/-- A function without documentation is a problem, and the report of the check is the only file that
is written. -/
theorem run_effect_undocumented :
    let workspace : Workspace :=
      { top := .file "a.cpp".toList (.text "void f();\n".toList) .empty
        working := []
        userFolder := none }
    let outcome := run false workspace ["check".toList]
    let target path text := ∃ line,
      CommandLine.ofArguments ["check".toList] = .ok line ∧ Target workspace line path text
    outcome.code = 1 ∧
      (∃ line, CommandLine.ofArguments ["check".toList] = .ok line ∧ Finds workspace line) ∧
      ∃ path text names, target path text ∧ workspace.locate path = .ok names ∧
        workspace.WritesOnly names text outcome.workspace := by
  intro workspace outcome target
  obtain ⟨-, -, success, code⟩ := run_effect false workspace ["check".toList]
  have isOne : outcome.code = 1 := by decide +kernel
  have changed : (outcome.workspace.find? "problems.txt".toList).isSome ≠
      (workspace.find? "problems.txt".toList).isSome := by decide +kernel
  refine ⟨isOne, code.mp isOne, (success (isOne.trans_ne (by decide))).resolve_left ?_⟩
  rintro ⟨kept, -⟩
  rw [show outcome.workspace = workspace from kept] at changed
  exact changed rfl

end HouseStyle.Program
