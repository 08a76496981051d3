/-
This file proves that a check can be repeated: if its report is none of the files that it reads, then
a second run ends as the first one and changes nothing.
-/

import HouseStyle.Proofs.Folder.Walk
import HouseStyle.Proofs.Path.FileName
import HouseStyle.Proofs.Program.Effect
import HouseStyle.Proofs.Program.Selection

namespace HouseStyle

namespace Config

variable {find other : Path → Finding}

/-- A configuration depends on what stands at its path. -/
theorem loadFile_congr {path : Path} (same : find path = other path) :
    loadFile find path = loadFile other path := by
  rw [loadFile, loadFile, same]

/-- The first configuration depends on what stands at the paths. -/
theorem loadFirst_congr {paths : List Path} (same : ∀ path ∈ paths, find path = other path) :
    loadFirst find paths = loadFirst other paths := by
  induction paths with
  | nil => rfl
  | cons path paths inductionHypothesis =>
      rw [loadFirst, loadFirst, same path List.mem_cons_self,
        inductionHypothesis fun later member => same later (List.mem_cons_of_mem _ member)]

end Config

namespace Workspace

variable {workspace : Workspace} {names : List Text}

/-- The paths at which a command looks for its configuration. -/
def configPaths (workspace : Workspace) (noConfig : Bool) (given : Option Path) : List Path :=
  if noConfig then []
  else
    match given with
    | some path => [path]
    | none => Config.candidates (some workspace.workingPath) workspace.userFolder

/-- A finding depends on the content at a path. -/
theorem finding_congr {first second : Workspace} {path : Path}
    (same : (first.find? path).map Item.content? = (second.find? path).map Item.content?) :
    first.finding path = second.finding path := by
  rw [finding, finding]
  rcases Item.eq_or_folders same with equal | ⟨⟨inside, found⟩, other, otherFound⟩
  · rw [equal]
  · rw [found, otherFound]

/-- A stored file has no effect on the configuration if it stands at none of its paths. -/
theorem loadConfig_store (receives : workspace.top.Receives names) (text : Text) {noConfig : Bool}
    {given : Option Path}
    (apart : ∀ path ∈ workspace.configPaths noConfig given, workspace.locate path ≠ .ok names) :
    (workspace.store names text).loadConfig noConfig given = workspace.loadConfig noConfig given := by
  have same (path : Path) (elsewhere : workspace.locate path ≠ .ok names) :
      (workspace.store names text).finding path = workspace.finding path :=
    finding_congr (content?_find?_store receives text elsewhere)
  cases noConfig with
  | true => rfl
  | false =>
      cases given with
      | some path => exact Config.loadFile_congr (same path (apart path (List.mem_singleton_self _)))
      | none => exact Config.loadFirst_congr fun path member => same path (apart path member)

end Workspace

namespace Program

/-- The report of a check, which stands at the end of the names, is none of the files that the check
reads. -/
structure Unread (workspace : Workspace) (noConfig : Bool) (options : CheckOptions)
    (config : Config) (names : List Text) : Prop where
  /-- Its extension is not one of those that are checked. -/
  notSelected : ∀ selection, Selection.ofConfig config.scanner = .ok selection →
    Path.hasExtension selection.extensions config.report.output = false
  /-- It is no configuration file. -/
  notConfig : ∀ path ∈ workspace.configPaths noConfig options.config,
    workspace.locate path ≠ .ok names
  /-- It is no ignore file of a folder. -/
  notIgnore : config.scanner.gitignore = true →
    ∀ ending ∈ IgnoreLevel.fileNames, ¬ ending <:+ names
  /-- It is not the ignore file of the user, and none of the settings that may name that file. -/
  notUser : config.scanner.gitignore = true →
    ∀ path ∈ workspace.userFiles, workspace.locate path ≠ .ok names

section Store

variable {workspace : Workspace} {line : CommandLine} {options : CheckOptions} {config : Config}
  {names : List Text}

/-- The report has no effect on the configuration of the check. -/
theorem checkConfig_store (receives : workspace.top.Receives names) (text : Text) {noConfig : Bool}
    (unread : Unread workspace noConfig options config names) :
    checkConfig (workspace.store names text) noConfig options =
      checkConfig workspace noConfig options := by
  rw [checkConfig, checkConfig, Workspace.loadConfig_store receives text unread.notConfig]

/-- The report is selected in no folder, because its name has no selected extension. -/
theorem accepts_of_unread {noConfig : Bool} (receives : workspace.top.Receives names)
    (located : workspace.locate config.report.output = .ok names)
    (unread : Unread workspace noConfig options config names) {selection : Selection}
    (selected : Selection.ofConfig config.scanner = .ok selection) {folder rest : List Text}
    (shape : names = folder ++ rest) (filled : rest ≠ []) (root : Path) :
    selection.accepts (Path.join root (List.intercalate ['/'] rest)) = false := by
  obtain ⟨way, name, items, rfl, last, isName, -⟩ :=
    Workspace.locate_of_no_folder located receives.get?_ne_folder
  have lastName : rest.getLast? = some name := by
    have ends := congrArg List.getLast? shape
    rw [List.getLast?_concat, List.getLast?_append, List.getLast?_eq_some_getLast filled,
      Option.some_or, ← List.getLast?_eq_some_getLast filled] at ends
    exact ends.symm
  obtain ⟨folders, rfl⟩ := List.getLast?_eq_some_iff.mp lastName
  have noSeparator : '/' ∉ name := Text.not_mem_of_mem_splitOn (List.mem_of_getLast? last)
  have sameName := (Path.fileName?_join_intercalate root folders noSeparator isName).trans
    (Path.fileName?_of_last last isName).symm
  rw [Selection.accepts, Path.hasExtension_congr sameName, unread.notSelected selection selected,
    Bool.false_and]

/-- The report has no effect on the report of the next check. -/
theorem checkFiles_store {noConfig : Bool} (receives : workspace.top.Receives names) (text : Text)
    (located : workspace.locate config.report.output = .ok names)
    (unread : Unread workspace noConfig options config names) :
    checkFiles (workspace.store names text) config = checkFiles workspace config := by
  rw [checkFiles, checkFiles]
  cases selected : Selection.ofConfig config.scanner with
  | error error => rfl
  | ok selection =>
      have same := Workspace.scan_store receives text config.scanner.gitignore unread.notIgnore
        unread.notUser fun folder rest shape filled =>
          accepts_of_unread receives located unread selected shape filled config.scanner.root
      simp only [bind, Except.bind, same]

/-- The end of a check that stores its report. -/
theorem check_of_write {report : Report} {changed : Workspace} (terminal : Bool)
    (checked : checkConfig workspace line.noConfig options = .ok config)
    (made : checkFiles workspace config = .ok report) (wanted : options.noReport = false)
    (written : workspace.write config.report.output (report.write options.format false) =
      .ok changed) :
    check terminal workspace line options =
      { code := checkCode report
        output :=
          if line.quiet then [] else report.write options.format (line.color.isColored terminal)
        workspace := changed } := by
  rw [check_of_checkConfig terminal checked, made]
  simp only [finishCheck, wanted, written, Bool.false_eq_true, if_false]

/-- A check does not notice its own report. -/
theorem check_changed {report : Report} {changed : Workspace} (terminal : Bool)
    (checked : checkConfig workspace line.noConfig options = .ok config)
    (made : checkFiles workspace config = .ok report) (wanted : options.noReport = false)
    (written : workspace.write config.report.output (report.write options.format false) =
      .ok changed)
    (unread : ∀ names, workspace.locate config.report.output = .ok names →
      Unread workspace line.noConfig options config names) :
    check terminal changed line options = check terminal workspace line options := by
  rw [check_of_write terminal checked made wanted written]
  obtain ⟨names, located, receives, rfl⟩ := Workspace.write_eq_ok written
  have apart := unread names located
  let text := report.write options.format false
  have checkedAgain : checkConfig (workspace.store names text) line.noConfig options = .ok config :=
    (checkConfig_store receives text apart).trans checked
  have madeAgain : checkFiles (workspace.store names text) config = .ok report :=
    (checkFiles_store receives text located apart).trans made
  exact check_of_write terminal checkedAgain madeAgain wanted
    (Workspace.write_store receives text located)

end Store

/-- A check can be repeated if its report is none of the files that it reads. The second run has the
same exit code, the same output and the same errors, and it leaves every file as it is. -/
theorem run_repeat {arguments : List Text} {line : CommandLine} {options : CheckOptions}
    (read : CommandLine.ofArguments arguments = .ok line) (isCheck : line.command = .check options)
    {workspace : Workspace}
    (unread : ∀ config names, checkConfig workspace line.noConfig options = .ok config →
      options.noReport = false → workspace.locate config.report.output = .ok names →
      Unread workspace line.noConfig options config names)
    (terminal : Bool) :
    let outcome := run terminal workspace arguments
    run terminal outcome.workspace arguments = outcome := by
  intro outcome
  have ended : outcome = check terminal workspace line options :=
    run_check terminal workspace read isCheck
  rw [run_check terminal outcome.workspace read isCheck]
  have effect : Effect workspace (Target workspace line) (Finds workspace line) outcome := by
    rw [ended]
    exact effect_check isCheck
  cases effect with
  | failure code kept incomplete => rw [kept, ← ended]
  | quiet code kept noTarget => rw [kept, ← ended]
  | write code isTarget written =>
      cases isTarget with
      | template isInit =>
          rw [isCheck] at isInit
          contradiction
      | report isCheck' checked made wanted =>
          obtain rfl := Command.check.inj (isCheck.symm.trans isCheck')
          have again := check_changed terminal checked made wanted written fun names located =>
            unread _ names checked wanted located
          rw [again, ended]

/-- The configuration file asks for ignore files, and the report is a new file next to one of them.
The user has an ignore file, too. -/
theorem run_repeat_ignored_file :
    let workspace : Workspace :=
      { top := .folder "p".toList
          (.file ".style-guard.toml".toList (.text "[scanner]\ngitignore = true\n".toList)
            (.file ".gitignore".toList (.text "b.cpp\n".toList)
              (.file "a.cpp".toList (.text "void f();\n".toList)
                (.file "b.cpp".toList (.text "void g();\n".toList)
                  (.file "c.cpp".toList (.text "void h();\n".toList) .empty)))))
          (.folder "home".toList
            (.folder ".config".toList
              (.folder "git".toList
                (.file "ignore".toList (.text "c.cpp\n".toList) .empty) .empty) .empty) .empty)
        working := ["p".toList]
        userFolder := some "/home/.config".toList
        home := some "/home".toList }
    let outcome := run false workspace ["check".toList]
    outcome.code = 1 ∧
      outcome.output = "./a.cpp\n  Function without documentation: 1    f\n".toList ∧
      workspace.find? "problems.txt".toList = none ∧
      outcome.workspace.find? "problems.txt".toList = some (.file (.text outcome.output)) ∧
      run false outcome.workspace ["check".toList] = outcome := by
  intro workspace outcome
  let config : Config := { scanner := { gitignore := true } }
  have read : CommandLine.ofArguments ["check".toList] = .ok { command := .check {} } := by
    decide +kernel
  have checked : checkConfig workspace false {} = .ok config := by decide +kernel
  have located : workspace.locate config.report.output =
      .ok ["p".toList, "problems.txt".toList] := by decide +kernel
  have unread : Unread workspace false {} config ["p".toList, "problems.txt".toList] :=
    { notSelected := fun selection selected => by
        rw [Selection.extensions_of_ofConfig selected]
        decide
      notConfig := by decide +kernel
      notIgnore := by decide
      notUser := fun _ => by decide +kernel }
  refine ⟨by decide +kernel, by decide +kernel, by decide +kernel, by decide +kernel,
    run_repeat read rfl ?_ false⟩
  intro other names otherChecked _ otherLocated
  obtain rfl := Except.ok.inj (checked.symm.trans otherChecked)
  obtain rfl := Except.ok.inj (located.symm.trans otherLocated)
  exact unread

end Program

end HouseStyle
