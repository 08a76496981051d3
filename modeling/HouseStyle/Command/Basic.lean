/-
This file defines the commands of the program and their options.
-/

import HouseStyle.Config.Load
import HouseStyle.Report.Format

namespace HouseStyle

inductive ColorChoice where
  /-- Colours are used on terminals. -/
  | auto
  | always
  | never
  deriving DecidableEq, Repr

/-- The options of the command that checks files. An option without a value leaves the
configuration as it is. -/
structure CheckOptions where
  root : Option Path := none
  config : Option Path := none
  extensions : Option (List Text) := none
  maxLineLength : Option Nat := none
  /-- These patterns are added to the configured ones. -/
  exclude : List Text := []
  format : Format := .text
  output : Option Path := none
  noReport : Bool := false
  deriving DecidableEq, Repr

inductive Command where
  | check (options : CheckOptions)
  | symbols (file : Path) (config : Option Path) (format : Format)
  | init (output : Path) (force : Bool)
  | validate (config : Path)
  | «show» (config : Option Path) (format : Format)
  deriving DecidableEq, Repr

/-- A command line with the options that all commands have. -/
structure CommandLine where
  verbose : Nat := 0
  quiet : Bool := false
  color : ColorChoice := .auto
  noConfig : Bool := false
  command : Command
  deriving DecidableEq, Repr

namespace CheckOptions

/-- A symbol extension stays only if its files are still scanned. -/
def keptExtensions (scanned symbols : List Text) : List Text :=
  symbols.filter fun extension =>
    (scanned.map Path.normalizeExtension).contains (Path.normalizeExtension extension)

/-- The options of the command line replace configured values. -/
def apply (options : CheckOptions) (config : Config) : Config where
  scanner := { config.scanner with
    root := options.root.getD config.scanner.root
    extensions := options.extensions.getD config.scanner.extensions
    exclude := config.scanner.exclude ++ options.exclude }
  symbols := { config.symbols with
    extensions :=
      match options.extensions with
      | none => config.symbols.extensions
      | some scanned => keptExtensions scanned config.symbols.extensions }
  ordering := config.ordering
  documentation := config.documentation
  spacing := config.spacing
  lineLength := { config.lineLength with
    max := options.maxLineLength.getD config.lineLength.max }
  forbidden := config.forbidden
  report := { config.report with
    output := options.output.getD config.report.output }

end CheckOptions

end HouseStyle
