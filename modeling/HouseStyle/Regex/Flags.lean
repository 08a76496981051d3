/-
This file defines the flags of a regular expression and what they mean for single characters. It
lists the reasons why a text is no regular expression.
-/

import HouseStyle.Regex.Basic

namespace HouseStyle.Regex

open Unicode

/-- The reasons why a text is no regular expression. -/
inductive Fault where
  | unclosedGroup
  | unopenedGroup
  | lookAround
  | badGroupName
  | badFlags
  | nothingToRepeat
  | badCount
  | badEscape
  | backReference
  | badBoundary
  | unclosedClass
  | badClassItem
  | badRange
  | unknownProperty
  /-- The expression could match a part of a character. -/
  | partOfCharacter
  | nestedTooDeep
  deriving DecidableEq, Repr

/-- The settings that a group such as `(?i-u)` changes. -/
structure Flags where
  caseless : Bool := false
  multiLine : Bool := false
  dotAll : Bool := false
  swapGreed : Bool := false
  unicode : Bool := true
  mixedLines : Bool := false
  verbose : Bool := false

namespace Flags

/-- This function changes the flag with the given letter. -/
def set? (flags : Flags) (value : Bool) : Char → Option Flags
  | 'i' => some { flags with caseless := value }
  | 'm' => some { flags with multiLine := value }
  | 's' => some { flags with dotAll := value }
  | 'U' => some { flags with swapGreed := value }
  | 'u' => some { flags with unicode := value }
  | 'R' => some { flags with mixedLines := value }
  | 'x' => some { flags with verbose := value }
  | _ => none

end Flags

/-- This function drops white space and comments. A comment goes from `#` to the end of its
line. -/
def skipSpace (inComment : Bool) : Text → Text
  | [] => []
  | char :: rest =>
      if inComment then skipSpace (char ≠ '\n') rest
      else if Text.isBlankChar char then skipSpace false rest
      else if char = '#' then skipSpace true rest
      else char :: rest

/-- White space and comments count only in expressions that are not verbose. -/
def Flags.skip (flags : Flags) (input : Text) : Text :=
  if flags.verbose then skipSpace false input else input

/-- The units of a set outside Unicode mode are bytes, so the set may hold ASCII only. -/
def isAscii (set : CharSet) : Bool :=
  (List.range 0x80).all fun offset => !set.contains (0x80 + offset)

/-- This function closes a set under case if the flags ask for that, and then takes the
complement if it is negated. -/
def Flags.finishSet (flags : Flags) (negated : Bool) (set : CharSet) : Except Fault CharSet :=
  if flags.unicode then
    .ok (.complementIf negated (if flags.caseless then .caseless set else set))
  else
    let result := .complementIf negated (if flags.caseless then .asciiCaseless set else set)
    if isAscii result then .ok result else .error .partOfCharacter

def asciiDigits : CharSet := .between '0' '9'

def asciiLetters : CharSet := .union (.between 'A' 'Z') (.between 'a' 'z')

def asciiSpaces : CharSet := .union (.span 9 13) (.single ' ')

def asciiWord : CharSet := .anyOf [asciiLetters, asciiDigits, .single '_']

/-- The characters of words, with or without Unicode. -/
def Flags.word (flags : Flags) : CharSet :=
  if flags.unicode then wordCharacters else asciiWord

/-- The sets `\d`, `\s` and `\w`. -/
inductive Shorthand where
  | digit
  | space
  | word

def Shorthand.codes (flags : Flags) : Shorthand → CharSet
  | digit => if flags.unicode then digits else asciiDigits
  | space => if flags.unicode then whiteSpace else asciiSpaces
  | word => flags.word

/-- The set of a shorthand. Its complement exists in Unicode mode only. -/
def Flags.shorthand (flags : Flags) (negated : Bool) (shorthand : Shorthand) :
    Except Fault CharSet :=
  if negated && !flags.unicode then .error .partOfCharacter
  else .ok (.complementIf negated (shorthand.codes flags))

/-- The set of a dot: every character, or every character inside a line. -/
def Flags.dot (flags : Flags) : Except Fault CharSet :=
  if !flags.unicode then .error .partOfCharacter
  else if flags.dotAll then .ok .all
  else if flags.mixedLines then .ok (.complement (.union (.single '\r') (.single '\n')))
  else .ok (.complement (.single '\n'))

/-- The characters that a literal character matches. `isByte` says that the literal was written
with two hexadecimal digits. -/
def Flags.literal (flags : Flags) (char : Char) (isByte : Bool) : Except Fault CharSet :=
  if flags.unicode then
    .ok (if flags.caseless then .caseless (.single char) else .single char)
  else if isByte && 0x80 ≤ char.toNat then .error .partOfCharacter
  else .ok (if flags.caseless then .asciiCaseless (.single char) else .single char)

end HouseStyle.Regex
