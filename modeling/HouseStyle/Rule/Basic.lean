/-
This file collects the rules that a configuration enables.
-/

import HouseStyle.Rule.Ordering
import HouseStyle.Rule.Spacing
import HouseStyle.Rule.Documentation
import HouseStyle.Rule.SingleLine

namespace HouseStyle

inductive Rule where
  | lineLength (max : Nat)
  | ordering (config : OrderingConfig)
  | spacing (minimum : Nat)
  | documentation (rule : Documentation)
  | forbidden (patterns : List Forbidden.Pattern)

namespace Rule

def name : Rule → Text
  | lineLength _ => "line-length".toList
  | ordering _ => "ordering".toList
  | spacing _ => "spacing".toList
  | documentation _ => "documentation".toList
  | forbidden _ => "forbidden".toList

def check (source : Source) : Rule → List Problem
  | lineLength max => LineLength.check max source
  | ordering config => Ordering.check config source
  | spacing minimum => Spacing.check minimum source
  | documentation rule => rule.check source
  | forbidden patterns => Forbidden.check patterns source

/-- The rule is in the list if it is enabled. -/
def enabled (isEnabled : Bool) (rule : Rule) : List Rule :=
  if isEnabled then [rule] else []

/-- The documentation rule, if it is enabled. -/
def documentationRules (config : DocumentationConfig) : Except Error (List Rule) := do
  if config.enabled then return [documentation (← Documentation.ofConfig config)] else return []

/-- The rule of the forbidden expressions, if there are any. -/
def forbiddenRules (config : ForbiddenConfig) : Except Error (List Rule) := do
  let patterns ← config.patterns.mapM Forbidden.Pattern.ofText
  return enabled (!patterns.isEmpty) (forbidden patterns)

/-- The rules that a configuration enables, in the order in which they run. -/
def ofConfig (config : Config) : Except Error (List Rule) := do
  let documentation ← documentationRules config.documentation
  let forbidden ← forbiddenRules config.forbidden
  return enabled config.lineLength.enabled (lineLength config.lineLength.max) ++
    enabled config.ordering.enabled (ordering config.ordering) ++
    enabled config.spacing.enabled (spacing config.spacing.minBlankLines) ++
    documentation ++ forbidden

end Rule

end HouseStyle
