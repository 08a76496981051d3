/-
This file defines texts as lists of characters, with white space, trimming and words.
-/

namespace HouseStyle

/-- A text is the list of its characters (Unicode scalar values). -/
abbrev Text := List Char

namespace Text

/-- The white space characters of Unicode: the property `White_Space`. -/
def isBlankChar (char : Char) : Bool :=
  let code := char.toNat
  (9 ≤ code && code ≤ 13) || code == 0x20 || code == 0x85 || code == 0xA0 || code == 0x1680 ||
    (0x2000 ≤ code && code ≤ 0x200A) || code == 0x2028 || code == 0x2029 || code == 0x202F ||
    code == 0x205F || code == 0x3000

/-- A text is blank if it holds white space only; the empty text is blank. -/
def isBlank (text : Text) : Bool :=
  text.all isBlankChar

def trimStart (text : Text) : Text :=
  text.dropWhile isBlankChar

/-- This function removes the characters at the end that satisfy the predicate. -/
def dropEndWhile (predicate : Char → Bool) (text : Text) : Text :=
  (text.reverse.dropWhile predicate).reverse

def trimEnd (text : Text) : Text :=
  dropEndWhile isBlankChar text

/-- This function removes white space on both sides. -/
def trim (text : Text) : Text :=
  trimEnd (trimStart text)

/-- This function splits a text at white space. `current` is the word that is being read. -/
def wordsFrom (current : Text) : Text → List Text
  | [] => if current.isEmpty then [] else [current]
  | char :: rest =>
      if isBlankChar char then
        if current.isEmpty then wordsFrom [] rest else current :: wordsFrom [] rest
      else wordsFrom (current ++ [char]) rest

/-- The maximal runs without white space, in order. -/
def words (text : Text) : List Text :=
  wordsFrom [] text

/-- ASCII letters become lower case and all other characters stay. -/
def lowerAscii (text : Text) : Text :=
  text.map Char.toLower

/-- The decimal digits of a number, without leading zeros. -/
def ofNat (number : Nat) : Text :=
  Nat.toDigits 10 number

/-- Numbers are smaller than this limit. They have at most 64 bits. -/
def numberLimit : Nat :=
  18446744073709551616

/-- A field has exactly `width` characters: longer texts are cut and shorter ones are filled with
spaces on the right. -/
def field (width : Nat) (text : Text) : Text :=
  text.take width ++ List.replicate (width - text.length) ' '

end Text

end HouseStyle
