/-
This file reads the four kinds of quoted texts.
-/

import HouseStyle.Toml.Basic
import HouseStyle.Text.Search

namespace HouseStyle.Toml

/-- A quoted text may have escapes, and it may have several lines. -/
structure Style where
  hasEscapes : Bool
  hasLines : Bool

/-- The position of the reader inside a quoted text. -/
inductive Mode where
  | plain
  /-- A line feed has to follow. -/
  | carriage
  /-- A backslash was read. -/
  | escape
  /-- Some digits of a character code are missing. -/
  | digits (missing code : Nat)
  /-- White space after a backslash at the end of a line is dropped. `broken` tells that the line
  has ended. -/
  | gap (broken : Bool)
  /-- White space is dropped, and a line feed has to follow. -/
  | gapCarriage

/-- The value of a hexadecimal digit. -/
def hexValue? (char : Char) : Option Nat :=
  if '0' ≤ char && char ≤ '9' then some (char.toNat - '0'.toNat)
  else if 'a' ≤ char && char ≤ 'f' then some (char.toNat - 'a'.toNat + 10)
  else if 'A' ≤ char && char ≤ 'F' then some (char.toNat - 'A'.toNat + 10)
  else none

/-- The character with a code, unless the code is a surrogate or too large. -/
def charOfCode? (code : Nat) : Option Char :=
  if code.isValidChar then some (Char.ofNat code) else none

/-- A step gives the next mode and the characters that are added to the text. -/
abbrev Step := Option (Mode × Text)

def stepPlain (style : Style) (char : Char) : Step :=
  if style.hasEscapes && char == '\\' then some (.escape, [])
  else if style.hasLines && char == '\n' then some (.plain, ['\n'])
  else if style.hasLines && char == '\r' then some (.carriage, [])
  else if isControl char then none
  else some (.plain, [char])

/-- A step after a backslash. -/
def stepEscape (style : Style) (char : Char) : Step :=
  match char with
  | 'b' => some (.plain, ['\x08'])
  | 't' => some (.plain, ['\t'])
  | 'n' => some (.plain, ['\n'])
  | 'f' => some (.plain, ['\x0c'])
  | 'r' => some (.plain, ['\r'])
  | 'e' => some (.plain, ['\x1b'])
  | '"' => some (.plain, ['"'])
  | '\\' => some (.plain, ['\\'])
  | 'x' => some (.digits 2 0, [])
  | 'u' => some (.digits 4 0, [])
  | 'U' => some (.digits 8 0, [])
  | ' ' => if style.hasLines then some (.gap false, []) else none
  | '\t' => if style.hasLines then some (.gap false, []) else none
  | '\n' => if style.hasLines then some (.gap true, []) else none
  | '\r' => if style.hasLines then some (.gapCarriage, []) else none
  | _ => none

def stepDigit (missing code : Nat) (char : Char) : Step :=
  match hexValue? char with
  | none => none
  | some digit =>
      let code := 16 * code + digit
      if missing ≤ 1 then (charOfCode? code).map fun char => (.plain, [char])
      else some (.digits (missing - 1) code, [])

def stepGap (style : Style) (broken : Bool) (char : Char) : Step :=
  if isBlank char then some (.gap broken, [])
  else if char == '\n' then some (.gap true, [])
  else if char == '\r' then some (.gapCarriage, [])
  else if broken then stepPlain style char
  else none

def Style.step (style : Style) : Mode → Char → Step
  | .plain, char => stepPlain style char
  | .carriage, char => if char == '\n' then some (.plain, ['\r', '\n']) else none
  | .escape, char => stepEscape style char
  | .digits missing code, char => stepDigit missing code char
  | .gap broken, char => stepGap style broken char
  | .gapCarriage, char => if char == '\n' then some (.gap true, []) else none

/-- The text may end in this mode. -/
def Mode.isFinal : Mode → Bool
  | plain => true
  | gap broken => broken
  | _ => false

/-- The meaning of the characters between the quotes. -/
def Style.decode (style : Style) (mode : Mode) : Text → Option Text
  | [] => if mode.isFinal then some [] else none
  | char :: rest =>
      match style.step mode char with
      | none => none
      | some (next, added) => (style.decode next rest).map (added ++ ·)

/-- The characters up to the quote that ends a text on one line, and the rest. -/
def splitBasic : Text → Option (Text × Text)
  | [] => none
  | '"' :: rest => some ([], rest)
  | '\\' :: char :: rest =>
      (splitBasic rest).map fun (body, rest) => ('\\' :: char :: body, rest)
  | char :: rest => (splitBasic rest).map fun (body, rest) => (char :: body, rest)

/-- Three quotes end a text with several lines. Up to two quotes before them belong to the text. -/
def closing? (quote : Char) (text : Text) : Option (Text × Text) :=
  (List.isPrefixOf? [quote, quote, quote] text).map fun rest =>
    let inside := (rest.takeWhile (· == quote)).take 2
    (inside, rest.drop inside.length)

/-- The characters up to the quotes that end a text with several lines, and the rest. -/
def splitLines (hasEscapes : Bool) (quote : Char) : Text → Option (Text × Text)
  | [] => none
  | [_] => none
  | char :: next :: rest =>
      match closing? quote (char :: next :: rest) with
      | some closed => some closed
      | none =>
          if hasEscapes && char == '\\' then
            (splitLines hasEscapes quote rest).map fun (body, after) =>
              (char :: next :: body, after)
          else
            (splitLines hasEscapes quote (next :: rest)).map fun (body, after) =>
              (char :: body, after)

/-- A line break directly after the opening quotes is dropped. -/
def dropBreak : Text → Text
  | '\n' :: rest => rest
  | '\r' :: '\n' :: rest => rest
  | text => text

/-- This function reads a text that ends on its line. Keys are quoted in this way, too. -/
def readQuotedLine : Text → Option (Text × Text)
  | '"' :: rest =>
      (splitBasic rest).bind fun (body, rest) =>
        (Style.decode ⟨true, false⟩ .plain body).map fun value => (value, rest)
  | '\'' :: rest =>
      (Text.cutAt? '\'' rest).bind fun (body, rest) =>
        (Style.decode ⟨false, false⟩ .plain body).map fun value => (value, rest)
  | _ => none

/-- This function reads a text of any kind, which starts with a quote. -/
def readQuoted : Text → Option (Text × Text)
  | '"' :: '"' :: '"' :: rest =>
      (splitLines true '"' rest).bind fun (body, rest) =>
        (Style.decode ⟨true, true⟩ .plain (dropBreak body)).map fun value => (value, rest)
  | '\'' :: '\'' :: '\'' :: rest =>
      (splitLines false '\'' rest).bind fun (body, rest) =>
        (Style.decode ⟨false, true⟩ .plain (dropBreak body)).map fun value => (value, rest)
  | text => readQuotedLine text

end HouseStyle.Toml
