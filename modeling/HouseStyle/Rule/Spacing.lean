/-
This file defines the rule that blank lines follow closing braces, includes and usings.
-/

import HouseStyle.Rule.Problem

namespace HouseStyle.Spacing

/-- The lines that have to be followed by blank lines. -/
inductive Trigger where
  | closeBrace
  | include
  | using
  deriving DecidableEq, Repr

namespace Trigger

/-- The trigger at the beginning of a line. -/
def ofLine? (line : Text) : Option Trigger :=
  if "\x7d".toList.isPrefixOf line then some closeBrace
  else if "#include".toList.isPrefixOf line then some «include»
  else if "using ".toList.isPrefixOf line then some «using»
  else none

def kind : Trigger → ProblemKind
  | closeBrace => .crampedCloseBrace
  | «include» => .crampedIncludes
  | «using» => .crampedUsings

end Trigger

/-- A block of lines with the same trigger: its last line, and the blank lines after it. -/
structure Block where
  trigger : Trigger
  lastLine : Nat
  blankLines : Nat

/-- The problem of a block with too few blank lines after it. -/
def cramped (minimum : Nat) (block : Block) : Problem :=
  { kind := block.trigger.kind
    line := block.lastLine
    detail := lineField block.lastLine ++ " (".toList ++ Text.ofNat block.blankLines ++
      " of ".toList ++ Text.ofNat minimum ++ " blank lines)".toList }

/-- The problems of some lines after an open block. The first line has the given number. A block
at the end of the file has no problem. -/
def checkFrom (minimum : Nat) (current : Option Block) (number : Nat) :
    List Text → List Problem
  | [] => []
  | line :: lines =>
      if Text.isBlank line then
        checkFrom minimum
          (current.map fun block => { block with blankLines := block.blankLines + 1 })
          (number + 1) lines
      else
        let trigger := Trigger.ofLine? line
        let next := trigger.map fun trigger => { trigger, lastLine := number, blankLines := 0 }
        let rest := checkFrom minimum next (number + 1) lines
        match current with
        | none => rest
        | some block =>
            if trigger = some block.trigger then rest
            else if block.blankLines < minimum then cramped minimum block :: rest
            else rest

/-- At least `minimum` blank lines follow each block. -/
def check (minimum : Nat) (source : Source) : List Problem :=
  checkFrom minimum none 1 source.lines

end HouseStyle.Spacing
