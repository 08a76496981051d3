/-
This file reads sets of characters in brackets.
-/

import HouseStyle.Regex.Escape

namespace HouseStyle.Regex

open Unicode

/-- The operations between the parts of a set. They associate to the left. -/
inductive SetOperation where
  | inter
  | difference
  | symmetricDifference

def SetOperation.apply : SetOperation → CharSet → CharSet → CharSet
  | inter => .inter
  | difference => .difference
  | symmetricDifference => .symmetricDifference

/-- The named sets of ASCII characters. -/
def asciiSets : List (String × CharSet) :=
  [("alnum", .union asciiLetters asciiDigits),
    ("alpha", asciiLetters),
    ("ascii", .span 0 0x7F),
    ("blank", .union (.single '\t') (.single ' ')),
    ("cntrl", .union (.span 0 0x1F) (.span 0x7F 0x7F)),
    ("digit", asciiDigits),
    ("graph", .between '!' '~'),
    ("lower", .between 'a' 'z'),
    ("print", .between ' ' '~'),
    ("punct", .anyOf [.between '!' '/', .between ':' '@', .between '[' '\x60', .between '\x7b' '~']),
    ("space", asciiSpaces),
    ("upper", .between 'A' 'Z'),
    ("word", asciiWord),
    ("xdigit", .anyOf [asciiDigits, .between 'A' 'F', .between 'a' 'f'])]

/-- This function reads a named set such as `[:^alpha:]`, after its opening bracket. -/
def readAsciiSet? : Text → Option (Bool × CharSet × Text)
  | ':' :: rest =>
      let (negated, body) :=
        match rest with
        | '^' :: body => (true, body)
        | _ => (false, rest)
      let name := body.takeWhile (· ≠ ':')
      match body.dropWhile (· ≠ ':') with
      | ':' :: ']' :: rest =>
          ((asciiSets.find? fun row => row.1.toList == name).map Prod.snd).map fun set =>
            (negated, set, rest)
      | _ => none
  | _ => none

/-- One end of a range, or one item of a set. -/
def readItem (flags : Flags) : Text → Except Fault (Atom × Text)
  | [] => .error .unclosedClass
  | '\\' :: rest => readEscape flags rest
  | char :: rest => .ok (.char char false, rest)

/-- The character of an item. Outside Unicode mode it has to be an ASCII character. -/
def Atom.literal? (flags : Flags) : Atom → Except Fault Char
  | .char value _ =>
      if flags.unicode || value.toNat < 0x80 then .ok value else .error .partOfCharacter
  | _ => .error .badRange

/-- The set of characters of an item. -/
def Atom.itemSet (flags : Flags) : Atom → Except Fault CharSet
  | .char value isByte => do return .single (← (Atom.char value isByte).literal? flags)
  | .shorthand kind negated => flags.shorthand negated kind
  | .property set negated => flags.finishSet negated set
  | .anchor _ => .error .badClassItem

/-- The next character but one, without the space that the flags skip. -/
def peekAfter (flags : Flags) (rest : Text) : Option Char :=
  (flags.skip rest).head?

/-- This function reads an item or a range. A hyphen before the closing bracket or before another
hyphen stands for itself. -/
def readRange (flags : Flags) (input : Text) : Except Fault (CharSet × Text) := do
  let (first, rest) ← readItem flags input
  match flags.skip rest with
  | [] => throw .unclosedClass
  | '-' :: after =>
      if peekAfter flags after == some ']' || peekAfter flags after == some '-' then
        return (← first.itemSet flags, '-' :: after)
      else
        match flags.skip after with
        | [] => throw .unclosedClass
        | after =>
            let (last, rest) ← readItem flags after
            let first ← first.literal? flags
            let last ← last.literal? flags
            if first ≤ last then return (.between first last, rest) else throw .badRange
  | rest => return (← first.itemSet flags, rest)

/-- An operation waits for its right side. -/
abbrev Pending := Option (SetOperation × CharSet)

def Pending.finish (flags : Flags) (pending : Pending) (right : CharSet) : CharSet :=
  match pending with
  | none => right
  | some (operation, left) =>
      let close (set : CharSet) : CharSet :=
        if !flags.caseless then set
        else if flags.unicode then .caseless set
        else .asciiCaseless set
      operation.apply (close left) (close right)

/-- Hyphens at the beginning of a set stand for themselves. -/
def readHyphens (flags : Flags) : Nat → Text → Bool × Text
  | 0, input => (false, input)
  | fuel + 1, input =>
      match input with
      | '-' :: rest => (true, (readHyphens flags fuel (flags.skip rest)).2)
      | _ => (false, input)

/-- A set that has been read: its characters, how deep its brackets nest, and the rest of the
text. -/
structure SetReading where
  set : CharSet
  depth : Nat
  rest : Text

/-- This function reads the items of a set up to its closing bracket. `depth` counts the levels
inside the set so far. -/
def readItems (flags : Flags) (negated : Bool) (pending : Pending) (current : CharSet)
    (depth : Nat) : Nat → Text → Except Fault SetReading
  | 0, _ => .error .unclosedClass
  | fuel + 1, input => do
      match flags.skip input with
      | [] => throw .unclosedClass
      | ']' :: rest =>
          let set ← flags.finishSet negated (pending.finish flags current)
          return { set, depth := depth + 1, rest }
      | '&' :: '&' :: rest =>
          readItems flags negated (some (.inter, pending.finish flags current)) .empty (depth + 1)
            fuel rest
      | '-' :: '-' :: rest =>
          readItems flags negated (some (.difference, pending.finish flags current)) .empty
            (depth + 1) fuel rest
      | '~' :: '~' :: rest =>
          readItems flags negated (some (.symmetricDifference, pending.finish flags current))
            .empty (depth + 1) fuel rest
      | '[' :: rest =>
          match readAsciiSet? rest with
          | some (isNegated, set, rest) =>
              let set ← flags.finishSet isNegated set
              readItems flags negated pending (.union current set) depth fuel rest
          | none =>
              let (isNegated, start, rest) ← openSet flags rest
              let inner ← readItems flags isNegated none start 0 fuel rest
              readItems flags negated pending (.union current inner.set) (max depth inner.depth)
                fuel inner.rest
      | input =>
          let (set, rest) ← readRange flags input
          readItems flags negated pending (.union current set) depth fuel rest
where
  /-- This function reads the beginning of a set: the sign of the complement, hyphens, and a
  closing bracket that stands for itself. -/
  openSet (flags : Flags) (input : Text) : Except Fault (Bool × CharSet × Text) := do
    let (negated, input) :=
      match flags.skip input with
      | '^' :: rest => (true, flags.skip rest)
      | input => (false, input)
    let (hyphen, input) := readHyphens flags (input.length + 1) input
    let start : CharSet := if hyphen then .single '-' else .empty
    match input with
    | [] => throw .unclosedClass
    | ']' :: rest =>
        if hyphen then return (negated, start, input)
        else return (negated, .single ']', rest)
    | _ => return (negated, start, input)

/-- This function reads a set after its opening bracket. -/
def readSet (flags : Flags) (input : Text) : Except Fault SetReading := do
  let (negated, start, rest) ← readItems.openSet flags input
  readItems flags negated none start 0 (rest.length + 1) rest

end HouseStyle.Regex
