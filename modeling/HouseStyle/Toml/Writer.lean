/-
This file writes the texts of TOML documents in their shortest common forms.
-/

import HouseStyle.Toml.Basic

namespace HouseStyle.Toml

/-- The length of the longest run of a character. `current` is the length of the open run. -/
def longestRun (char : Char) (current : Nat) : Text → Nat
  | [] => current
  | first :: rest =>
      if first = char then longestRun char (current + 1) rest
      else max current (longestRun char 0 rest)

/-- Control characters that need an escape. A line feed is not among them. -/
def needsEscape (char : Char) : Bool :=
  isControl char && char != '\n'

def upperDigit (value : Nat) : Char :=
  (Nat.digitChar value).toUpper

/-- The escape of a control character by its code. -/
def escapeCode (char : Char) : Text :=
  ['\\', 'u', '0', '0', upperDigit (char.toNat / 16), upperDigit (char.toNat % 16)]

def escapeChar (char : Char) : Text :=
  match char with
  | '"' => ['\\', '"']
  | '\\' => ['\\', '\\']
  | '\x08' => ['\\', 'b']
  | '\t' => ['\\', 't']
  | '\n' => ['\\', 'n']
  | '\x0c' => ['\\', 'f']
  | '\r' => ['\\', 'r']
  | _ => if isControl char then escapeCode char else [char]

/-- In a text with several lines, line feeds stay, and of the quotes in a run every third one is
escaped. `run` is the number of quotes just before. -/
def escapeLines (run : Nat) : Text → Text
  | [] => []
  | '\n' :: rest => '\n' :: escapeLines 0 rest
  | '"' :: rest =>
      if run < 2 then '"' :: escapeLines (run + 1) rest else '\\' :: '"' :: escapeLines 0 rest
  | char :: rest => escapeChar char ++ escapeLines 0 rest

/-- A text with line feeds starts on a line of its own. -/
def opening (text : Text) : Text :=
  if '\n' ∈ text then ['\n'] else []

def quoteBasic (text : Text) : Text :=
  '"' :: text.flatMap escapeChar ++ ['"']

def quoteLiteral (text : Text) : Text :=
  '\'' :: text ++ ['\'']

def quoteBasicLines (text : Text) : Text :=
  ['"', '"', '"'] ++ opening text ++ escapeLines 0 text ++ ['"', '"', '"']

def quoteLiteralLines (text : Text) : Text :=
  ['\'', '\'', '\''] ++ opening text ++ text ++ ['\'', '\'', '\'']

/-- The written form of a text is the first of the four forms that needs no escape. If all of them
need one, the text is escaped in the form that fits its lines. -/
def quote (text : Text) : Text :=
  let hasCode := text.any needsEscape
  let hasLines := text.contains '\n'
  if !hasCode && !text.contains '\\' && !text.contains '"' && !hasLines then quoteBasic text
  else if !hasCode && !text.contains '\'' && !hasLines then quoteLiteral text
  else if !hasCode && !text.contains '\\' && longestRun '"' 0 text ≤ 2 then quoteBasicLines text
  else if !hasCode && longestRun '\'' 0 text ≤ 2 then quoteLiteralLines text
  else if hasLines then quoteBasicLines text
  else quoteBasic text

/-- A list with several items has one line for each of them. -/
def writeTexts : List Text → Text
  | [] => ['[', ']']
  | [item] => '[' :: quote item ++ [']']
  | items => '[' :: '\n' :: (items.flatMap fun item => "    ".toList ++ quote item ++ [',', '\n']) ++ [']']

end HouseStyle.Toml
