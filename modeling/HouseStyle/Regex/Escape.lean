/-
This file reads the escape sequences of regular expressions and writes texts that match
literally.
-/

import HouseStyle.Regex.Flags

namespace HouseStyle.Regex

open Unicode

/-- The characters with a meaning of their own, in some place of an expression. -/
def isMeta (char : Char) : Bool :=
  ['\\', '.', '+', '*', '?', '(', ')', '|', '[', ']', '\x7b', '\x7d', '^', '$', '#', '&', '-',
    '~'].contains char

/-- This function puts a backslash before every character with a meaning of its own. The result
matches exactly the given text. -/
def quote (text : Text) : Text :=
  text.flatMap fun char => if isMeta char then ['\\', char] else [char]

/-- An ASCII character may be quoted, unless it is a letter, a digit, `<` or `>`. -/
def isQuotable (char : Char) : Bool :=
  char.toNat < 0x80 && !char.isAlphanum && char ≠ '<' && char ≠ '>'

/-- An assertion as it is written, before the flags are applied. -/
inductive Anchor where
  | textStart
  | textEnd
  | boundary
  | notBoundary
  | wordStart
  | wordEnd
  | wordStartHalf
  | wordEndHalf

/-- The meaning of an escape sequence. -/
inductive Atom where
  /-- `isByte` says that the character was written with two hexadecimal digits. -/
  | char (char : Char) (isByte : Bool)
  | shorthand (kind : Shorthand) (negated : Bool)
  | property (set : CharSet) (negated : Bool)
  | anchor (anchor : Anchor)

def Anchor.assertion (flags : Flags) : Anchor → Assertion
  | textStart => .textStart
  | textEnd => .textEnd
  | boundary => .boundary flags.word
  | notBoundary => .notBoundary flags.word
  | wordStart => .wordStart flags.word
  | wordEnd => .wordEnd flags.word
  | wordStartHalf => .wordStartHalf flags.word
  | wordEndHalf => .wordEndHalf flags.word

def hexValue? (char : Char) : Option Nat :=
  if '0' ≤ char && char ≤ '9' then some (char.toNat - '0'.toNat)
  else if 'a' ≤ char && char ≤ 'f' then some (char.toNat - 'a'.toNat + 10)
  else if 'A' ≤ char && char ≤ 'F' then some (char.toNat - 'A'.toNat + 10)
  else none

/-- The character with the given code point, unless it is a surrogate or too large. -/
def character? (code : Nat) : Option Char :=
  if code.isValidChar then some (Char.ofNat code) else none

/-- This function reads exactly `count` hexadecimal digits. -/
def readHexDigits (flags : Flags) (number : Nat) : Nat → Text → Except Fault (Nat × Text)
  | 0, input => .ok (number, input)
  | count + 1, input =>
      match input with
      | [] => .error .badEscape
      | char :: rest =>
          match hexValue? char with
          | none => .error .badEscape
          | some digit => readHexDigits flags (16 * number + digit) count (flags.skip rest)

/-- This function reads the text up to a closing brace, without the space that the flags skip. -/
def readBraced (flags : Flags) : Nat → Text → Option (Text × Text)
  | 0, _ => none
  | fuel + 1, input =>
      match flags.skip input with
      | [] => none
      | '\x7d' :: rest => some ([], rest)
      | char :: rest => (readBraced flags fuel rest).map fun (name, rest) => (char :: name, rest)

def hexText? (digits : Text) : Option Nat :=
  if digits.isEmpty then none
  else digits.foldlM (fun number char => (hexValue? char).map (16 * number + ·)) 0

/-- This function reads a code point: digits in braces, or exactly `width` digits. -/
def readHex (flags : Flags) (width : Nat) (input : Text) : Except Fault (Atom × Text) := do
  let (code, isByte, rest) ←
    match flags.skip input with
    | '\x7b' :: rest =>
        match readBraced flags (rest.length + 1) rest with
        | none => throw .badEscape
        | some (digits, rest) =>
            match hexText? digits with
            | none => throw .badEscape
            | some code => pure (code, false, rest)
    | input =>
        let (code, rest) ← readHexDigits flags 0 width input
        pure (code, width == 2, rest)
  match character? code with
  | none => throw .badEscape
  | some char => return (.char char isByte, rest)

/-- The set of characters of a property, which is written as a name or as a name with a value. -/
def propertySet? (text : Text) : Option CharSet :=
  let before (separator : Char) := text.takeWhile (· ≠ separator)
  let after (separator : Char) := (text.dropWhile (· ≠ separator)).drop 1
  if text.contains '=' && (before '=').getLast? == some '!' then
    Naming.valued? (before '=').dropLast (after '=')
  else if text.contains ':' then Naming.valued? (before ':') (after ':')
  else if text.contains '=' then Naming.valued? (before '=') (after '=')
  else Naming.named? text

/-- This function reads the name after `\p` or `\P`. -/
def readProperty (flags : Flags) (negated : Bool) (input : Text) : Except Fault (Atom × Text) := do
  let (name, rest) ←
    match flags.skip input with
    | [] => throw .badEscape
    | '\x7b' :: rest =>
        match readBraced flags (rest.length + 1) rest with
        | none => throw .badEscape
        | some (name, rest) => pure (name, rest)
    | '\\' :: _ => throw .unknownProperty
    | char :: rest => pure ([char], rest)
  if !flags.unicode then throw .unknownProperty
  match propertySet? name with
  | none => throw .unknownProperty
  | some set => return (.property set negated, rest)

/-- The name of a special boundary consists of letters and hyphens. -/
def isBoundaryChar (char : Char) : Bool :=
  char.isAlpha || char == '-'

/-- This function reads letters and hyphens. -/
def readBoundaryName (flags : Flags) : Nat → Text → Text × Text
  | 0, input => ([], input)
  | fuel + 1, input =>
      match input with
      | char :: rest =>
          if isBoundaryChar char then
            let (name, rest) := readBoundaryName flags fuel (flags.skip rest)
            (char :: name, rest)
          else ([], input)
      | [] => ([], [])

/-- This function reads what follows `\b`: a special boundary in braces, or nothing. Braces that
start otherwise are left as a count. -/
def readBoundary (flags : Flags) (input : Text) : Except Fault (Atom × Text) :=
  match input with
  | '\x7b' :: inner =>
      match flags.skip inner with
      | [] => .error .badBoundary
      | char :: rest =>
          if !isBoundaryChar char then .ok (.anchor .boundary, input)
          else
            let (name, rest) := readBoundaryName flags (rest.length + 1) (char :: rest)
            match String.ofList name, rest with
            | "start", '\x7d' :: rest => .ok (.anchor .wordStart, rest)
            | "end", '\x7d' :: rest => .ok (.anchor .wordEnd, rest)
            | "start-half", '\x7d' :: rest => .ok (.anchor .wordStartHalf, rest)
            | "end-half", '\x7d' :: rest => .ok (.anchor .wordEndHalf, rest)
            | _, _ => .error .badBoundary
  | _ => .ok (.anchor .boundary, input)

/-- This function reads the escape sequence after a backslash. -/
def readEscape (flags : Flags) : Text → Except Fault (Atom × Text)
  | [] => .error .badEscape
  | char :: rest =>
      if isMeta char then .ok (.char char false, rest)
      else if char.isDigit then .error .backReference
      else
        match char with
        | 'x' => readHex flags 2 rest
        | 'u' => readHex flags 4 rest
        | 'U' => readHex flags 8 rest
        | 'p' => readProperty flags false rest
        | 'P' => readProperty flags true rest
        | 'd' => .ok (.shorthand .digit false, rest)
        | 'D' => .ok (.shorthand .digit true, rest)
        | 's' => .ok (.shorthand .space false, rest)
        | 'S' => .ok (.shorthand .space true, rest)
        | 'w' => .ok (.shorthand .word false, rest)
        | 'W' => .ok (.shorthand .word true, rest)
        | 'a' => .ok (.char '\x07' false, rest)
        | 'f' => .ok (.char '\x0c' false, rest)
        | 't' => .ok (.char '\t' false, rest)
        | 'n' => .ok (.char '\n' false, rest)
        | 'r' => .ok (.char '\r' false, rest)
        | 'v' => .ok (.char '\x0b' false, rest)
        | 'A' => .ok (.anchor .textStart, rest)
        | 'z' => .ok (.anchor .textEnd, rest)
        | 'b' => readBoundary flags rest
        | 'B' => .ok (.anchor .notBoundary, rest)
        | '<' => .ok (.anchor .wordStart, rest)
        | '>' => .ok (.anchor .wordEnd, rest)
        | _ => if isQuotable char then .ok (.char char false, rest) else .error .badEscape

end HouseStyle.Regex
