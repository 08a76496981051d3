/-
This file reads configurations from TOML documents.
-/

import HouseStyle.Config.Setting
import HouseStyle.Error
import HouseStyle.Toml.Reader

namespace HouseStyle

open Toml (Value Entries)

namespace Setting

def text? : Value → Option Text
  | .text value => some value
  | _ => none

def flag? : Value → Option Bool
  | .flag value => some value
  | _ => none

/-- Counts are not negative and smaller than the limit of numbers. -/
def count? : Value → Option Nat
  | .number (.ofNat value) => if value < Text.numberLimit then some value else none
  | _ => none

/-- The items of a list of any kind. -/
def items? : Value → Option (List Value)
  | .list items => some items
  | .tables items => some items
  | _ => none

def texts? (value : Value) : Option (List Text) :=
  (items? value).bind fun items => items.mapM text?

end Setting

def SpecialPlacement.ofName? (name : Text) : Option SpecialPlacement :=
  if name = "first".toList then some .first
  else if name = "last".toList then some .last
  else none

/-- A placement is written as its name, or as a table with an empty value of that name. -/
def SpecialPlacement.ofValue? : Value → Option SpecialPlacement
  | .text name => ofName? name
  | .table _ [(name, .table _ [])] => ofName? name
  | .table _ [(name, .list [])] => ofName? name
  | _ => none

namespace Section

/-- The entries of a section. A table may have no other names than the given ones. A list gives the
values in the order of the names. -/
def entries? (names : List Text) : Value → Option Entries
  | .table _ entries =>
      if entries.all fun (name, _) => names.contains name then some entries else none
  | value => (Setting.items? value).map names.zip

/-- The value of a setting. A missing setting keeps its default value. -/
def setting {Kind : Type} (read : Value → Option Kind) (default : Kind) (name : String)
    (entries : Entries) : Option Kind :=
  match entries.lookup name.toList with
  | none => some default
  | some value => read value

end Section

open Section (entries? setting)

/-- The names of the settings of a section, in order. -/
def Section.names (part : Section) : List Text :=
  part.settings.map Prod.fst

def ScannerConfig.ofValue? (value : Value) : Option ScannerConfig := do
  let default : ScannerConfig := {}
  let entries ← entries? (Config.scannerSection default).names value
  let root ← setting Setting.text? default.root "root" entries
  let extensions ← setting Setting.texts? default.extensions "extensions" entries
  let exclude ← setting Setting.texts? default.exclude "exclude" entries
  let gitignore ← setting Setting.flag? default.gitignore "gitignore" entries
  return { root, extensions, exclude, gitignore }

def SymbolsConfig.ofValue? (value : Value) : Option SymbolsConfig := do
  let default : SymbolsConfig := {}
  let entries ← entries? (Config.symbolsSection default).names value
  let extensions ← setting Setting.texts? default.extensions "extensions" entries
  let frameworks ← setting Setting.texts? default.frameworks "framework_prefixes" entries
  return { extensions, frameworks }

def OrderingConfig.ofValue? (value : Value) : Option OrderingConfig := do
  let default : OrderingConfig := {}
  let entries ← entries? (Config.orderingSection default).names value
  let enabled ← setting Setting.flag? default.enabled "enabled" entries
  let exceptions ← setting Setting.texts? default.exceptions "exceptions" entries
  let constructors ←
    setting SpecialPlacement.ofValue? default.constructors "constructors" entries
  return { enabled, exceptions, constructors }

def DocumentationConfig.ofValue? (value : Value) : Option DocumentationConfig := do
  let default : DocumentationConfig := {}
  let entries ← entries? (Config.documentationSection default).names value
  let enabled ← setting Setting.flag? default.enabled "enabled" entries
  let blockStart ← setting Setting.text? default.blockStart "block_start" entries
  let paramTag ← setting Setting.text? default.paramTag "param_tag" entries
  return { enabled, blockStart, paramTag }

def SpacingConfig.ofValue? (value : Value) : Option SpacingConfig := do
  let default : SpacingConfig := {}
  let entries ← entries? (Config.spacingSection default).names value
  let enabled ← setting Setting.flag? default.enabled "enabled" entries
  let minBlankLines ← setting Setting.count? default.minBlankLines "min_blank_lines" entries
  return { enabled, minBlankLines }

def LineLengthConfig.ofValue? (value : Value) : Option LineLengthConfig := do
  let default : LineLengthConfig := {}
  let entries ← entries? (Config.lineLengthSection default).names value
  let enabled ← setting Setting.flag? default.enabled "enabled" entries
  let max ← setting Setting.count? default.max "max" entries
  return { enabled, max }

def ForbiddenConfig.ofValue? (value : Value) : Option ForbiddenConfig := do
  let default : ForbiddenConfig := {}
  let entries ← entries? (Config.forbiddenSection default).names value
  let patterns ← setting Setting.texts? default.patterns "patterns" entries
  return { patterns }

def ReportConfig.ofValue? (value : Value) : Option ReportConfig := do
  let default : ReportConfig := {}
  let entries ← entries? (Config.reportSection default).names value
  let exclude ← setting Setting.texts? default.exclude "exclude" entries
  let output ← setting Setting.text? default.output "output" entries
  return { exclude, output }

namespace Config

/-- The names of all sections, in order. -/
def sectionNames : List Text :=
  (sections {}).map Section.name

/-- A configuration with the values of a document. Everything that the document does not mention
keeps its default value, and everything that it mentions has to be known. -/
def ofValue? (value : Value) : Option Config := do
  let entries ← entries? sectionNames value
  let scanner ← setting ScannerConfig.ofValue? {} "scanner" entries
  let symbols ← setting SymbolsConfig.ofValue? {} "symbols" entries
  let ordering ← setting OrderingConfig.ofValue? {} "ordering" entries
  let documentation ← setting DocumentationConfig.ofValue? {} "documentation" entries
  let spacing ← setting SpacingConfig.ofValue? {} "spacing" entries
  let lineLength ← setting LineLengthConfig.ofValue? {} "line_length" entries
  let forbidden ← setting ForbiddenConfig.ofValue? {} "forbidden" entries
  let report ← setting ReportConfig.ofValue? {} "report" entries
  return { scanner, symbols, ordering, documentation, spacing, lineLength, forbidden, report }

/-- This function reads the text of a configuration file. -/
def ofText (text : Text) : Except Error Config :=
  match (Toml.read text).bind fun entries => ofValue? (.table .header entries) with
  | some config => .ok config
  | none => .error .malformedConfig

end Config

end HouseStyle
