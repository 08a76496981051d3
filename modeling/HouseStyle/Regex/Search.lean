/-
This file decides whether a regular expression matches somewhere in a text. All starting places
are followed at the same time, so the cost stays polynomial.
-/

import HouseStyle.Regex.Basic

namespace HouseStyle

namespace Regex

/-- One mark for each place of a text. -/
abbrev Marks := List Bool

/-- The places of a text, from the one before its first character to the one after its last. -/
def placesOf (before : Option Char) : Text → List Place
  | [] => [⟨before, none⟩]
  | char :: rest => ⟨before, some char⟩ :: placesOf (some char) rest

/-- This function moves every mark over a character of the set. -/
def moveOver (set : Unicode.CharSet) (places : List Place) (marks : Marks) : Marks :=
  let moves := List.zipWith
    (fun place mark => mark && place.after.any fun char => set.contains char.toNat) places marks
  false :: moves.dropLast

/-- This function applies a step a number of times. It stops early when nothing changes. -/
def iterate (step : Marks → Marks) : Nat → Marks → Marks
  | 0, marks => marks
  | rounds + 1, marks =>
      let next := step marks
      if next == marks then marks else iterate step rounds next

/-- The marks that are reached with at most the given number of steps. -/
def spread (step : Marks → Marks) : Nat → Marks → Marks :=
  iterate fun marks => List.zipWith (· || ·) marks (step marks)

/-- The places where a match can end, if it starts at a marked place. -/
def advance (places : List Place) : Regex → Marks → Marks
  | .empty, marks => marks
  | .one set, marks => moveOver set places marks
  | .check assertion, marks =>
      List.zipWith (fun place mark => mark && assertion.holds place) places marks
  | .sequence first second, marks => advance places second (advance places first marks)
  | .choice first second, marks =>
      List.zipWith (· || ·) (advance places first marks) (advance places second marks)
  | .repeated body count _, marks =>
      let step := advance places body
      let rounds :=
        match count.most with
        | none => places.length
        | some most => most - count.least
      spread step rounds (iterate step count.least marks)
  | .capture _ body, marks => advance places body marks

/-- The expression matches some part of the text. -/
def occursIn (expr : Regex) (text : Text) : Bool :=
  let places := placesOf none text
  (advance places expr (places.map fun _ => true)).any id

end Regex

end HouseStyle
