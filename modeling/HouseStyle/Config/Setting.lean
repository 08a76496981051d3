/-
This file lists the settings of a configuration by section and name, and writes them.
-/

import HouseStyle.Config.Basic
import HouseStyle.Json.Basic
import HouseStyle.Toml.Writer
import HouseStyle.Text.Search

namespace HouseStyle

/-- The value of a setting. -/
inductive Setting where
  | text (value : Text)
  | texts (values : List Text)
  | number (value : Nat)
  | flag (value : Bool)
  deriving DecidableEq, Repr

def Setting.document : Setting → Json
  | text value => .text value
  | texts values => .list (values.map .text)
  | number value => .number value
  | flag value => .flag value

def Setting.toml : Setting → Text
  | text value => Toml.quote value
  | texts values => Toml.writeTexts values
  | number value => Text.ofNat value
  | flag true => "true".toList
  | flag false => "false".toList

/-- A section with its settings by name, in the order in which they are shown. -/
structure Section where
  name : Text
  settings : List (Text × Setting)

namespace Section

def document (part : Section) : Json :=
  .object (part.settings.map fun (name, setting) => (name, setting.document))

def settingLine (name : Text) (setting : Setting) : Text :=
  name ++ " = ".toList ++ setting.toml ++ ['\n']

def toml (part : Section) : Text :=
  '[' :: part.name ++ "]\n".toList ++
    part.settings.flatMap fun (name, setting) => settingLine name setting

/-- An empty line separates two sections. -/
def tomlAll (parts : List Section) : Text :=
  List.intercalate ['\n'] (parts.map toml)

end Section

def SpecialPlacement.name : SpecialPlacement → Text
  | first => "first".toList
  | last => "last".toList

namespace Config

def scannerSection (config : ScannerConfig) : Section where
  name := "scanner".toList
  settings := [
    ("root".toList, .text config.root),
    ("extensions".toList, .texts config.extensions),
    ("exclude".toList, .texts config.exclude),
    ("gitignore".toList, .flag config.gitignore)]

def symbolsSection (config : SymbolsConfig) : Section where
  name := "symbols".toList
  settings := [
    ("extensions".toList, .texts config.extensions),
    ("framework_prefixes".toList, .texts config.frameworks)]

def orderingSection (config : OrderingConfig) : Section where
  name := "ordering".toList
  settings := [
    ("enabled".toList, .flag config.enabled),
    ("exceptions".toList, .texts config.exceptions),
    ("constructors".toList, .text config.constructors.name)]

def documentationSection (config : DocumentationConfig) : Section where
  name := "documentation".toList
  settings := [
    ("enabled".toList, .flag config.enabled),
    ("block_start".toList, .text config.blockStart),
    ("param_tag".toList, .text config.paramTag)]

def spacingSection (config : SpacingConfig) : Section where
  name := "spacing".toList
  settings := [
    ("enabled".toList, .flag config.enabled),
    ("min_blank_lines".toList, .number config.minBlankLines)]

def lineLengthSection (config : LineLengthConfig) : Section where
  name := "line_length".toList
  settings := [
    ("enabled".toList, .flag config.enabled),
    ("max".toList, .number config.max)]

def forbiddenSection (config : ForbiddenConfig) : Section where
  name := "forbidden".toList
  settings := [("patterns".toList, .texts config.patterns)]

def reportSection (config : ReportConfig) : Section where
  name := "report".toList
  settings := [
    ("exclude".toList, .texts config.exclude),
    ("output".toList, .text config.output)]

def sections (config : Config) : List Section :=
  [scannerSection config.scanner, symbolsSection config.symbols, orderingSection config.ordering,
    documentationSection config.documentation, spacingSection config.spacing,
    lineLengthSection config.lineLength, forbiddenSection config.forbidden,
    reportSection config.report]

/-- The configuration as a TOML document. -/
def toml (config : Config) : Text :=
  Section.tomlAll config.sections

def document (config : Config) : Json :=
  .object (config.sections.map fun part => (part.name, part.document))

end Config

end HouseStyle
