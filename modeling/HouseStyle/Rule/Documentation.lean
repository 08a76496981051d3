/-
This file defines the rule that each function has a documentation block that names its parameters.
-/

import HouseStyle.Rule.Problem
import HouseStyle.Config.Basic
import HouseStyle.Error
import HouseStyle.Regex.Reader
import HouseStyle.Regex.Capture

namespace HouseStyle

/-- The rule with its settings: the beginning of a block, and the expression that captures a
documented parameter. -/
structure Documentation where
  blockStart : Text
  paramPattern : Regex

namespace Documentation

/-- The written form of the expression for a documented parameter: the tag, an optional direction
in brackets, white space and a name. -/
def patternText (tag : Text) : Text :=
  Regex.quote (Text.trim tag) ++
    r"(?:\[[a-zA-Z, ]*\])?\s+([A-Za-z_][A-Za-z0-9_]*)".toList

def ofConfig (config : DocumentationConfig) : Except Error Documentation :=
  match Regex.ofText? (patternText config.paramTag) with
  | .error _ => .error (.invalidRegex (patternText config.paramTag))
  | .ok paramPattern => .ok { blockStart := Text.trim config.blockStart, paramPattern }

/-- The line starts a block, after white space. -/
def startsBlock (rule : Documentation) (line : Text) : Bool :=
  rule.blockStart.isPrefixOf (Text.trimStart line)

/-- The index of the nearest line above that starts a block, if no blank line comes before it.
`above` holds the lines in front of the declaration in reverse. -/
def findStart? (rule : Documentation) : List Text → Option Nat
  | [] => none
  | line :: above =>
      if rule.startsBlock line then some above.length
      else if Text.isBlank line then none
      else findStart? rule above

/-- The lines in front of the line with the given number. -/
def linesAbove (lines : List Text) (number : Nat) : List Text :=
  lines.take (number - 1)

/-- The index of the first line of the block for a function on the given line. -/
def blockStart? (rule : Documentation) (lines : List Text) (number : Nat) : Option Nat :=
  rule.findStart? (linesAbove lines number).reverse

/-- The different parameters that some lines document, in the order of their first occurrence. -/
def documented (rule : Documentation) (lines : List Text) : List Text :=
  (lines.flatMap fun line => rule.paramPattern.captures 1 none line).eraseDups

/-- The problem of a function without a block. -/
def missing (function : Function) : Problem :=
  { kind := .missingDocumentation
    line := function.line
    detail := lineField function.line ++ ' ' :: function.fullName }

/-- The problem of one parameter of a function. -/
def parameterProblem (kind : ProblemKind) (function : Function) (name : Text) : Problem :=
  { kind
    line := function.line
    detail := lineField function.line ++ ' ' :: Text.field 40 function.fullName ++ ' ' :: name }

/-- The block of a function documents exactly its parameters. -/
def checkFunction (rule : Documentation) (lines : List Text) (function : Function) :
    List Problem :=
  match rule.blockStart? lines function.line with
  | none => [missing function]
  | some start =>
      let names := rule.documented ((linesAbove lines function.line).drop start)
      (function.parameters.filter fun name => !names.contains name).map
          (parameterProblem .undocumentedParameter function) ++
        (names.filter fun name => !function.parameters.contains name).map
          (parameterProblem .unknownDocumentedParameter function)

def check (rule : Documentation) (source : Source) : List Problem :=
  match source.symbols with
  | none => []
  | some symbols => symbols.functions.flatMap (rule.checkFunction source.lines)

end Documentation

end HouseStyle
