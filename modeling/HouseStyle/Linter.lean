/-
This file applies all enabled rules to files.
-/

import HouseStyle.Rule.Basic
import HouseStyle.Report.Basic

namespace HouseStyle

/-- The rules with the settings that concern whole files. -/
structure Linter where
  rules : List Rule
  /-- The extensions of the files with symbols, in normalized form. -/
  symbolExtensions : List Text
  frameworks : List Text
  /-- Problems in paths that contain one of these texts are not reported. -/
  unreported : List Text

namespace Linter

def ofConfig (config : Config) : Except Error Linter := do
  let rules ← Rule.ofConfig config
  return {
    rules
    symbolExtensions := config.symbols.extensions.map Path.normalizeExtension
    frameworks := config.symbols.frameworks
    unreported := config.report.exclude }

/-- The file has symbols if its path has one of the symbol extensions. -/
def source (linter : Linter) (path : Path) (text : Text) : Source where
  lines := Text.lines text
  symbols :=
    if Path.hasExtension linter.symbolExtensions path then
      some (Symbols.ofText linter.frameworks text)
    else none

/-- The problems of one file, rule by rule. Each one carries the path of the file. -/
def check (linter : Linter) (path : Path) (text : Text) : List Problem :=
  (linter.rules.flatMap fun rule => rule.check (linter.source path text)).map (Problem.inFile path)

/-- A backslash separates components as a slash does. -/
def reports (linter : Linter) (path : Path) : Bool :=
  !(linter.unreported.any fun part => Text.occurs part (Text.swapChar '\\' '/' path))

/-- This function adds the problems of a file to a report if its path is reported. -/
def record (linter : Linter) (report : Report) (path : Path) (problems : List Problem) : Report :=
  if linter.reports path then report.add path problems else report

end Linter

end HouseStyle
