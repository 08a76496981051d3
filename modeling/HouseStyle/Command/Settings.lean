/-
This file collects the options that are given on a command line.
-/

import HouseStyle.Command.Basic
import HouseStyle.Command.Usage

namespace HouseStyle

inductive OptionName where
  | verbose
  | quiet
  | color
  | noConfig
  | config
  | extensions
  | maxLineLength
  | exclude
  | format
  | output
  | noReport
  | force
  /-- The argument without an option. -/
  | operand
  | help
  | version
  deriving DecidableEq, Repr

/-- The options that are given to one command, with their values. -/
structure GivenOptions where
  verbose : Nat := 0
  quiet : Bool := false
  color : Option ColorChoice := none
  noConfig : Bool := false
  config : Option Path := none
  extensions : Option (List Text) := none
  maxLineLength : Option Nat := none
  exclude : List Text := []
  format : Option Format := none
  output : Option Path := none
  noReport : Bool := false
  force : Bool := false
  operand : Option Path := none
  deriving DecidableEq, Repr

namespace GivenOptions

/-- A path is not empty. -/
def readPath (value : Text) : Except UsageFault Path :=
  if value.isEmpty then .error .invalidValue else .ok value

def readColor (value : Text) : Except UsageFault ColorChoice :=
  if value = "auto".toList then .ok .auto
  else if value = "always".toList then .ok .always
  else if value = "never".toList then .ok .never
  else .error .invalidValue

def readFormat (value : Text) : Except UsageFault Format :=
  match Format.ofText? value with
  | some format => .ok format
  | none => .error .malformedValue

/-- The value of decimal digits. -/
def natural (digits : Text) : Nat :=
  digits.foldl (fun number digit => 10 * number + (digit.toNat - '0'.toNat)) 0

/-- A number has decimal digits and perhaps a plus sign. -/
def readNumber (value : Text) : Except UsageFault Nat :=
  let digits := (List.isPrefixOf? ['+'] value).getD value
  if digits.isEmpty || !digits.all Char.isDigit || Text.numberLimit ≤ natural digits then
    .error .malformedValue
  else .ok (natural digits)

/-- An option with a single value may be given once. -/
def once {Kind : Type} (old : Option Kind) (read : Text → Except UsageFault Kind) (value : Text)
    (update : Kind → GivenOptions) : Except UsageFault GivenOptions :=
  if old.isSome then .error .conflict else (read value).map update

/-- This function stores the value of an option. Options without a value keep no value. -/
def store (given : GivenOptions) (value : Text) : OptionName → Except UsageFault GivenOptions
  | .color => once given.color readColor value fun color => { given with color := some color }
  | .config => once given.config readPath value fun path => { given with config := some path }
  | .extensions =>
      .ok { given with
        extensions := some (given.extensions.getD [] ++ List.splitOn ',' value) }
  | .maxLineLength =>
      once given.maxLineLength readNumber value fun number =>
        { given with maxLineLength := some number }
  | .exclude => .ok { given with exclude := given.exclude ++ [value] }
  | .format => once given.format readFormat value fun format => { given with format := some format }
  | .output => once given.output readPath value fun path => { given with output := some path }
  | .operand => once given.operand readPath value fun path => { given with operand := some path }
  | _ => .ok given

/-- A switch may be given once. -/
def switch (old : Bool) (new : GivenOptions) : Except UsageFault GivenOptions :=
  if old then .error .conflict else .ok new

/-- This function stores an option without a value. -/
def mark (given : GivenOptions) : OptionName → Except UsageFault GivenOptions
  | .verbose => .ok { given with verbose := min 255 (given.verbose + 1) }
  | .quiet => switch given.quiet { given with quiet := true }
  | .noConfig => switch given.noConfig { given with noConfig := true }
  | .noReport => switch given.noReport { given with noReport := true }
  | .force => switch given.force { given with force := true }
  | .help => .error .help
  | .version => .error .version
  | _ => .ok given

/-- The options that all commands have count for the inner command. What the inner command says
itself comes first. -/
def inherit (outer inner : GivenOptions) : GivenOptions :=
  { inner with
    verbose := if inner.verbose = 0 then outer.verbose else inner.verbose
    quiet := inner.quiet || outer.quiet
    color := inner.color <|> outer.color
    noConfig := inner.noConfig || outer.noConfig }

def commandLine (given : GivenOptions) (command : Command) : CommandLine where
  verbose := given.verbose
  quiet := given.quiet
  color := given.color.getD .auto
  noConfig := given.noConfig
  command

end GivenOptions

end HouseStyle
