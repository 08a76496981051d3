/-
This file extracts the symbols of a source file from its lines.
-/

import HouseStyle.Source.Definition
import HouseStyle.Source.Signature
import HouseStyle.Text.Search

namespace HouseStyle.Symbols

/-- The functions that are declared on the lines. The first line has the given number. -/
def functionsFrom (number : Nat) : List Text → List Function
  | [] => []
  | line :: lines =>
      match Definition.ofLine? line with
      | none => functionsFrom (number + 1) lines
      | some (scope, name) =>
          { scope, name, line := number
            parameters := Signature.parameters (Signature.collect (line :: lines)) } ::
            functionsFrom (number + 1) lines

/-- The includes on the lines. A line that starts with a slash is a comment. -/
def includesFrom (frameworks : List Text) (number : Nat) : List Text → List Include
  | [] => []
  | line :: lines =>
      match if line.head? == some '/' then none else Include.target? line with
      | none => includesFrom frameworks (number + 1) lines
      | some target =>
          { target, line := number, category := Include.categorize frameworks target } ::
            includesFrom frameworks (number + 1) lines

/-- The constants on the lines. `scope` is the namespace that is open. Every line that starts with
a closing brace closes it, and an opener replaces it. -/
def constantsFrom (scope : Option Text) (number : Nat) : List Text → List Constant
  | [] => []
  | line :: lines =>
      match Constant.opener? line with
      | some opened => constantsFrom (some opened) (number + 1) lines
      | none =>
          if line.head? == some '\x7d' then constantsFrom none (number + 1) lines
          else
            match scope, if scope.isSome then Constant.name? line else none with
            | some opened, some name =>
                { name, scope := opened, line := number } ::
                  constantsFrom scope (number + 1) lines
            | _, _ => constantsFrom scope (number + 1) lines

/-- The symbols of the lines of a file. `frameworks` are the texts that mark the targets of
framework includes. -/
def ofLines (frameworks : List Text) (lines : List Text) : Symbols :=
  { functions := functionsFrom 1 lines
    includes := includesFrom frameworks 1 lines
    constants := constantsFrom none 1 lines }

def ofText (frameworks : List Text) (text : Text) : Symbols :=
  ofLines frameworks (Text.lines text)

end HouseStyle.Symbols
