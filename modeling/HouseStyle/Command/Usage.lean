/-
This file lists the ways in which a command line ends without a command.
-/

import HouseStyle.Text.Basic

namespace HouseStyle

inductive UsageFault where
  /-- The command line asks for help. -/
  | help
  /-- The command line asks for the version. -/
  | version
  /-- A command is missing, and nothing else is given. -/
  | nothingGiven
  | missingCommand
  | unknownCommand
  | unknownArgument
  | missingOperand
  /-- An option has no value, an empty path, or a value that is not among its choices. -/
  | invalidValue
  /-- A value is no number or no format. -/
  | malformedValue
  /-- An option that takes no value has one. -/
  | unneededValue
  /-- An option is given twice, or together with one that excludes it. -/
  | conflict
  deriving DecidableEq, Repr

namespace UsageFault

def message : UsageFault → Text
  | help => "help requested".toList
  | version => "version requested".toList
  | nothingGiven => "a command is required".toList
  | missingCommand => "a command is required".toList
  | unknownCommand => "unrecognized command".toList
  | unknownArgument => "unexpected argument found".toList
  | missingOperand => "a required argument was not provided".toList
  | invalidValue => "invalid or missing value for an option".toList
  | malformedValue => "malformed value for an option".toList
  | unneededValue => "unexpected value for an option".toList
  | conflict => "an argument cannot be used multiple times or with another one".toList

end UsageFault

end HouseStyle
