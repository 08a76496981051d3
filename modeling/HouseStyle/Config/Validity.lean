/-
This file decides whether the values of a configuration can be used.
-/

import HouseStyle.Selection
import HouseStyle.Regex.Reader

namespace HouseStyle.Config

/-- This function refuses a configuration for the given reason if the condition holds. -/
def refuseIf (condition : Bool) (fault : ConfigFault) : Except Error Unit :=
  if condition then .error (.config fault) else .ok ()

/-- This function refuses a pattern that is no glob. -/
def checkGlob (pattern : Text) : Except Error Unit :=
  (Selection.globOfText pattern).map fun _ => ()

/-- This function refuses a pattern that is no regular expression. -/
def checkExpression (pattern : Text) : Except Error Unit :=
  match Regex.ofText? pattern with
  | .error _ => .error (.invalidRegex pattern)
  | .ok _ => .ok ()

/-- The extensions name the same files, up to case, white space and dots in front. -/
def sameExtension (first second : Text) : Bool :=
  Path.normalizeExtension first == Path.normalizeExtension second

/-- The first symbol extension that is not scanned. -/
def unscanned? (config : Config) : Option Text :=
  config.symbols.extensions.find? fun extension =>
    !(config.scanner.extensions.any fun scanned => sameExtension scanned extension)

def validateScanner (config : Config) : Except Error Unit := do
  refuseIf config.scanner.extensions.isEmpty .noExtensions
  config.scanner.exclude.forM checkGlob
  match config.unscanned? with
  | some extension => .error (.config (.unscannedExtension extension))
  | none => .ok ()

def validateRules (config : Config) : Except Error Unit := do
  refuseIf (config.lineLength.max == 0) .zeroLineLength
  refuseIf (Text.isBlank config.documentation.blockStart) .emptyBlockStart
  refuseIf (Text.isBlank config.documentation.paramTag) .emptyParamTag
  refuseIf (Text.isBlank config.report.output) .emptyOutput

/-- The first reason against a configuration, if there is one. -/
def validate (config : Config) : Except Error Unit := do
  config.validateScanner
  config.validateRules
  config.forbidden.patterns.forM checkExpression

end HouseStyle.Config
