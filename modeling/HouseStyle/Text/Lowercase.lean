/-
This file defines the lower case of a text and the order of texts without regard to case.
-/

import HouseStyle.Text.Basic
import HouseStyle.Unicode.Naming

namespace HouseStyle.Text

/-- The nearest character that is not case ignorable is a cased letter. -/
def meetsCased (text : Text) : Bool :=
  match text.dropWhile fun char => Unicode.caseIgnorable.contains char.toNat with
  | [] => false
  | char :: _ => Unicode.cased.contains char.toNat

/-- The lower case of one character. The capital sigma becomes a final sigma at the end of a word,
and the dotted capital I becomes two characters. `before` is the preceding text in reverse. -/
def lowerChar (before : Text) (char : Char) (after : Text) : Text :=
  if char.toNat < 0x80 then [char.toLower]
  else if char == 'İ' then ['i', '\u0307']
  else if char == 'Σ' then
    if meetsCased before && !meetsCased after then ['ς'] else ['σ']
  else [Char.ofNat (Unicode.lowerShifts.image char.toNat)]

def lowerFrom (before : Text) : Text → Text
  | [] => []
  | char :: after => lowerChar before char after ++ lowerFrom (char :: before) after

def lowercase (text : Text) : Text :=
  lowerFrom [] text

/-- The first text comes strictly before the second one, without regard to case. -/
def caselessBefore (first second : Text) : Bool :=
  decide (lowercase first < lowercase second)

end HouseStyle.Text
