/-
This file finds, splits and joins texts. It splits the text of a file into lines.
-/

import HouseStyle.Text.Basic

namespace HouseStyle.Text

/-- The needle occurs somewhere in the text. The empty needle occurs in every text. -/
def occurs (needle : Text) : Text → Bool
  | [] => needle.isEmpty
  | char :: rest => needle.isPrefixOf (char :: rest) || occurs needle rest

/-- The pieces between the separators. A text with `n` separators has `n + 1` pieces. -/
abbrev pieces (separator : Char) (text : Text) : List Text :=
  text.splitOn separator

/-- The text before the first occurrence of a character and the text after it. -/
def cutAt? (separator : Char) : Text → Option (Text × Text)
  | [] => none
  | char :: rest =>
      if char = separator then some ([], rest)
      else (cutAt? separator rest).map fun (before, after) => (char :: before, after)

/-- This function joins the pieces with the separator between neighbours. -/
abbrev joined (separator : Text) (pieces : List Text) : Text :=
  separator.intercalate pieces

/-- Every occurrence of `old` becomes `new`. -/
def swapChar (old new : Char) (text : Text) : Text :=
  text.map fun char => if char = old then new else char

/-- This function puts a character in front of the first line. -/
def consFirst (char : Char) : List Text → List Text
  | [] => [[char]]
  | line :: lines => (char :: line) :: lines

/-- A line ends at a line feed. One carriage return directly before the line feed belongs to the
end of the line, every other carriage return belongs to the line. A line feed at the end of the
text opens no further line. -/
def lines : Text → List Text
  | [] => []
  | '\n' :: rest => [] :: lines rest
  | '\r' :: '\n' :: rest => [] :: lines rest
  | char :: rest => consFirst char (lines rest)

end HouseStyle.Text
