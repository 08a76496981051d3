/-
This file defines the rules for single lines: no line is too long, and no line matches a forbidden
expression.
-/

import HouseStyle.Rule.Problem
import HouseStyle.Error
import HouseStyle.Regex.Reader
import HouseStyle.Regex.Search

namespace HouseStyle

namespace LineLength

/-- The problems of some lines. The first line has the given number. -/
def checkFrom (max number : Nat) : List Text → List Problem
  | [] => []
  | line :: lines =>
      if max < line.length then
        { kind := .longLine, line := number
          detail := lineField number ++ " (".toList ++ Text.ofNat line.length ++
            " characters)".toList } :: checkFrom max (number + 1) lines
      else checkFrom max (number + 1) lines

/-- A line may have at most `max` characters. -/
def check (max : Nat) (source : Source) : List Problem :=
  checkFrom max 1 source.lines

end LineLength

namespace Forbidden

/-- A forbidden expression with its written form. -/
structure Pattern where
  text : Text
  expr : Regex

def Pattern.ofText (text : Text) : Except Error Pattern :=
  match Regex.ofText? text with
  | .error _ => .error (.invalidRegex text)
  | .ok expr => .ok { text, expr }

/-- The problems of some lines. A line has at most one problem, for the first expression that
matches it. -/
def checkFrom (patterns : List Pattern) (number : Nat) : List Text → List Problem
  | [] => []
  | line :: lines =>
      match patterns.find? fun pattern => pattern.expr.occursIn line with
      | none => checkFrom patterns (number + 1) lines
      | some pattern =>
          { kind := .forbiddenToken
            line := number
            detail := lineField number ++ ' ' :: Text.field 20 pattern.text ++
              ' ' :: Text.trim line } :: checkFrom patterns (number + 1) lines

def check (patterns : List Pattern) (source : Source) : List Problem :=
  checkFrom patterns 1 source.lines

end Forbidden

end HouseStyle
