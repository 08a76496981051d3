/-
This file defines what the program does for a command line.
-/

import HouseStyle.Command.Reader
import HouseStyle.Config.Template
import HouseStyle.Config.Validity
import HouseStyle.Folder.Scan
import HouseStyle.Linter
import HouseStyle.Report.Format

namespace HouseStyle

/-- The end of a run. -/
structure Outcome where
  code : Nat
  output : Text := []
  errors : Text := []
  workspace : Workspace

namespace ColorChoice

/-- `terminal` tells that the output goes to a terminal that shows colours. -/
def isColored (terminal : Bool) : ColorChoice → Bool
  | auto => terminal
  | always => true
  | never => false

end ColorChoice

namespace Workspace

/-- What stands at the path of a configuration file. -/
def finding (workspace : Workspace) (path : Path) : Finding :=
  match workspace.find? path with
  | none => .missing
  | some (.file (.text text)) => .text text
  | some _ => .unreadable

/-- The configuration of a command. -/
def loadConfig (workspace : Workspace) (noConfig : Bool) (path : Option Path) :
    Except Error Config :=
  if noConfig then .ok {}
  else
    match path with
    | some path => Config.loadFile workspace.finding path
    | none =>
        Config.loadFirst workspace.finding
          (Config.candidates (some workspace.workingPath) workspace.userFolder)

end Workspace

/-- The problems of a file that is found. A file without a text has a problem of its own. -/
def Linter.checkFile (linter : Linter) (file : FoundFile) : List Problem :=
  match file.content with
  | .text text => linter.check file.path text
  | .binary =>
      [{ kind := .unreadableFile, line := 0
         detail := "stream did not contain valid UTF-8".toList
         path := file.path }]

/-- The report on some files. -/
def Linter.report (linter : Linter) (files : List FoundFile) : Report :=
  files.foldl (fun report file => linter.record report file.path (linter.checkFile file))
    { scanned := files.length }

namespace Program

/-- An error ends a run without a change. -/
def failure (workspace : Workspace) (title : Text) (error : Error) : Outcome where
  code := 2
  errors := title ++ error.message ++ ['\n']
  workspace

def fail (workspace : Workspace) (error : Error) : Outcome :=
  failure workspace "Error: ".toList error

/-- The valid configuration of a check. -/
def checkConfig (workspace : Workspace) (noConfig : Bool) (options : CheckOptions) :
    Except Error Config := do
  let config := options.apply (← workspace.loadConfig noConfig options.config)
  config.validate
  return config

/-- The report on the files that a configuration selects. -/
def checkFiles (workspace : Workspace) (config : Config) : Except Error Report := do
  let selection ← Selection.ofConfig config.scanner
  let linter ← Linter.ofConfig config
  let files ← workspace.scan selection config.scanner.gitignore config.scanner.root
  return linter.report files

/-- The exit code tells whether there are problems. -/
def checkCode (report : Report) : Nat :=
  if report.hasProblems then 1 else 0

/-- A check prints its report and writes it to a file without colours. -/
def finishCheck (terminal : Bool) (workspace : Workspace) (line : CommandLine)
    (options : CheckOptions) (config : Config) (report : Report) : Outcome :=
  let output :=
    if line.quiet then []
    else report.write options.format (line.color.isColored terminal)
  if options.noReport then { code := checkCode report, output, workspace }
  else
    match workspace.write config.report.output (report.write options.format false) with
    | .error _ =>
        { fail workspace (.unwritableReport config.report.output) with output }
    | .ok changed => { code := checkCode report, output, workspace := changed }

def check (terminal : Bool) (workspace : Workspace) (line : CommandLine)
    (options : CheckOptions) : Outcome :=
  let result := do
    let config ← checkConfig workspace line.noConfig options
    return (config, ← checkFiles workspace config)
  match result with
  | .error error => fail workspace error
  | .ok (config, report) => finishCheck terminal workspace line options config report

/-- The symbols of a file are printed with a line feed at the end. -/
def symbols (terminal : Bool) (workspace : Workspace) (line : CommandLine) (file : Path)
    (config : Option Path) (format : Format) : Outcome :=
  let result := do
    let config ← workspace.loadConfig line.noConfig config
    let text ← workspace.readText file
    let symbols := Symbols.ofText config.symbols.frameworks text
    return symbols.write format (line.color.isColored terminal) file
  match result with
  | .error error => fail workspace error
  | .ok output =>
      let output := if output.getLast? = some '\n' then output else output ++ ['\n']
      { code := 0, output, workspace }

/-- An existing file is overwritten only if this is forced. -/
def init (workspace : Workspace) (path : Path) (force : Bool) : Outcome :=
  if (workspace.find? path).isSome && !force then
    fail workspace (.config (.existingFile path))
  else
    match workspace.write path Config.template with
    | .error fault => fail workspace (.write fault)
    | .ok changed =>
        { code := 0
          output := "Created configuration file: ".toList ++ path ++ ['\n']
          workspace := changed }

def validate (workspace : Workspace) (path : Path) : Outcome :=
  match (Config.loadFile workspace.finding path).bind Config.validate with
  | .error error => failure workspace "Configuration error: ".toList error
  | .ok _ =>
      { code := 0
        output := "Configuration is valid: ".toList ++ path ++ ['\n']
        workspace }

/-- The configuration in the chosen format. -/
def shown (format : Format) (config : Config) : Text :=
  match format with
  | .text => config.toml
  | .json => config.document.write ++ ['\n']

def «show» (workspace : Workspace) (noConfig : Bool) (path : Option Path) (format : Format) :
    Outcome :=
  match workspace.loadConfig noConfig path with
  | .error error => fail workspace error
  | .ok config => { code := 0, output := shown format config, workspace }

/-- This function runs the command of a command line. -/
def runCommand (terminal : Bool) (workspace : Workspace) (line : CommandLine) : Outcome :=
  match line.command with
  | .check options => check terminal workspace line options
  | .symbols file config format => symbols terminal workspace line file config format
  | .init path force => init workspace path force
  | .validate path => validate workspace path
  | .show path format => «show» workspace line.noConfig path format

def usage : Text :=
  "Usage: style-guard [OPTIONS] <check|symbols|init|config|help>\n".toList

def version : Text :=
  "style-guard 0.1.0\n".toList

/-- A request for help or for the version succeeds. Every other fault ends the run. -/
def refuse (workspace : Workspace) (fault : UsageFault) : Outcome :=
  match fault with
  | .help => { code := 0, output := usage, workspace }
  | .version => { code := 0, output := version, workspace }
  | .nothingGiven => { code := 2, errors := usage, workspace }
  | _ => { code := 2, errors := "error: ".toList ++ fault.message ++ '\n' :: usage, workspace }

/-- This function runs the program with the given arguments. -/
def run (terminal : Bool) (workspace : Workspace) (arguments : List Text) : Outcome :=
  match CommandLine.ofArguments arguments with
  | .error fault => refuse workspace fault
  | .ok line => runCommand terminal workspace line

/-- The folder that a check with a valid configuration searches. -/
def searchedFolder? (workspace : Workspace) (arguments : List Text) : Option Path :=
  match CommandLine.ofArguments arguments with
  | .error _ => none
  | .ok line =>
      match line.command with
      | .check options =>
          match checkConfig workspace line.noConfig options with
          | .error _ => none
          | .ok config => some config.scanner.root
      | _ => none

end Program

end HouseStyle
