/-
This file reads regular expressions.
-/

import HouseStyle.Regex.Bracket

namespace HouseStyle.Regex

open Unicode

/-- A part of a sequence. A change of flags is a part that cannot be repeated. -/
inductive Item where
  | setting
  | part (node : Node)

/-- A group that is still open. `items` and `branches` stand in reverse, as they are outside the
group. -/
structure Frame where
  items : List Item
  branches : List Node
  flags : Flags
  number : Option Nat

/-- The state of the reader: the flags, the current sequence and the finished alternatives of the
innermost open group, and the groups around it. -/
structure Machine where
  flags : Flags := {}
  items : List Item := []
  branches : List Node := []
  frames : List Frame := []
  groups : Nat := 0
  names : List Text := []

def Item.toNode : Item → Node
  | setting => .leaf .empty
  | part node => node

/-- The sequence of some parts, which stand in reverse. -/
def sequenceNode (items : List Item) : Node :=
  .sequence (items.reverse.map Item.toNode)

/-- The choice between some alternatives, which stand in reverse. -/
def choiceNode (branches : List Node) : Node :=
  .choice branches.reverse

namespace Machine

def push (machine : Machine) (node : Node) : Machine :=
  { machine with items := .part node :: machine.items }

def pushSet (machine : Machine) (set : CharSet) : Machine :=
  machine.push (.leaf (.one set))

/-- The expression that has been read since the innermost open parenthesis. -/
def body (machine : Machine) : Node :=
  choiceNode (sequenceNode machine.items :: machine.branches)

/-- This function ends an alternative. -/
def nextBranch (machine : Machine) : Machine :=
  { machine with items := [], branches := sequenceNode machine.items :: machine.branches }

/-- This function opens a group. -/
def openGroup (machine : Machine) (number : Option Nat) (flags : Flags) : Machine :=
  { machine with
    flags
    items := []
    branches := []
    frames := ⟨machine.items, machine.branches, machine.flags, number⟩ :: machine.frames }

/-- This function closes the innermost open group. The flags become those of the time when it was
opened. -/
def closeGroup (machine : Machine) : Except Fault Machine :=
  match machine.frames with
  | [] => .error .unopenedGroup
  | frame :: frames =>
      let body := machine.body
      let inside :=
        match frame.number with
        | none => body
        | some number => { body with expr := .capture number body.expr }
      .ok { machine with
        flags := frame.flags
        items := .part inside.group :: frame.items
        branches := frame.branches
        frames := frames }

/-- This function opens a group that captures. -/
def openCapture (machine : Machine) (name : Option Text) : Except Fault Machine :=
  let number := machine.groups + 1
  match name with
  | none => .ok { machine.openGroup (some number) machine.flags with groups := number }
  | some name =>
      if machine.names.contains name then .error .badGroupName
      else
        .ok { machine.openGroup (some number) machine.flags with
          groups := number
          names := name :: machine.names }

/-- This function repeats the last part of the sequence. -/
def repeatLast (machine : Machine) (count : Count) (greedy : Bool) : Except Fault Machine :=
  match machine.items with
  | .part node :: items =>
      let node := node.repeated count (greedy != machine.flags.swapGreed)
      .ok { machine with items := .part node :: items }
  | _ => .error .nothingToRepeat

end Machine

/-- A group name starts with a letter or `_`, and continues with letters, digits, `_`, `.`, `[`
and `]`. -/
def isNameStart (char : Char) : Bool :=
  char == '_' || alphabetic.contains char.toNat

def isNamePart (char : Char) : Bool :=
  char == '_' || char == '.' || char == '[' || char == ']' || alphanumeric.contains char.toNat

/-- This function reads a group name up to its closing angle. -/
def readName (input : Text) : Except Fault (Text × Text) :=
  let name := input.takeWhile (· ≠ '>')
  match input.dropWhile (· ≠ '>'), name with
  | '>' :: rest, first :: others =>
      if isNameStart first && others.all isNamePart then .ok (name, rest)
      else .error .badGroupName
  | _, _ => .error .badGroupName

/-- The flags of a group, the character that ends them, and the rest of the text. -/
structure FlagReading where
  flags : Flags
  anyFlag : Bool
  closed : Bool
  rest : Text

/-- This function reads flags up to a colon or a closing parenthesis. `seen` holds the letters so
far, `negated` says that a hyphen was read, and `dangling` that it was the last character. -/
def readFlags (flags : Flags) (seen : Text) (negated dangling : Bool) :
    Text → Except Fault FlagReading
  | [] => .error .unclosedGroup
  | char :: rest =>
      if char = ':' || char = ')' then
        if dangling then .error .badFlags
        else .ok { flags, anyFlag := !seen.isEmpty, closed := char = ')', rest }
      else if char = '-' then
        if negated then .error .badFlags else readFlags flags seen true true rest
      else if seen.contains char then .error .badFlags
      else
        match flags.set? (!negated) char with
        | none => .error .badFlags
        | some flags => readFlags flags (char :: seen) negated false rest

/-- This function reads an opening parenthesis, of which the text before `input` ends. -/
def readGroup (machine : Machine) (input : Text) : Except Fault (Machine × Text) := do
  match machine.flags.skip input with
  | '?' :: '=' :: _ => throw .lookAround
  | '?' :: '!' :: _ => throw .lookAround
  | '?' :: '<' :: '=' :: _ => throw .lookAround
  | '?' :: '<' :: '!' :: _ => throw .lookAround
  | '?' :: 'P' :: '<' :: rest =>
      let (name, rest) ← readName rest
      return (← machine.openCapture (some name), rest)
  | '?' :: '<' :: rest =>
      let (name, rest) ← readName rest
      return (← machine.openCapture (some name), rest)
  | '?' :: rest =>
      let reading ← readFlags machine.flags [] false false rest
      if reading.closed then
        if reading.anyFlag then
          return ({ machine with flags := reading.flags, items := .setting :: machine.items },
            reading.rest)
        else throw .nothingToRepeat
      else return (machine.openGroup none reading.flags, reading.rest)
  | rest => return (← machine.openCapture none, rest)

/-- A count has at most 32 bits. -/
def maxCount : Nat := 4294967295

/-- This function reads digits. The flags may skip space between them. -/
def readDigits (flags : Flags) : Nat → Text → Text × Text
  | 0, input => ([], input)
  | fuel + 1, input =>
      match input with
      | char :: rest =>
          if char.isDigit then
            let (digits, rest) := readDigits flags fuel (flags.skip rest)
            (char :: digits, rest)
          else ([], input)
      | [] => ([], [])

/-- This function reads a number with white space around it. The number is missing if there are
no digits. -/
def readNumber (flags : Flags) (input : Text) : Except Fault (Option Nat × Text) :=
  let (digits, rest) := readDigits flags (input.length + 1) (Text.trimStart input)
  let rest := flags.skip (Text.trimStart rest)
  let number := digits.foldl (fun number digit => 10 * number + (digit.toNat - '0'.toNat)) 0
  if digits.isEmpty then .ok (none, rest)
  else if number ≤ maxCount then .ok (some number, rest)
  else .error .badCount

/-- This function reads the end of a count that starts with `least`: nothing, a comma, or a comma
and the largest number. -/
def readMost (flags : Flags) (least : Nat) (input : Text) : Except Fault (Count × Text) := do
  match input with
  | ',' :: rest =>
      let rest := flags.skip rest
      if rest.head? == some '\x7d' then return (⟨least, none⟩, rest)
      else
        match ← readNumber flags rest with
        | (none, _) => throw .badCount
        | (some most, rest) => return (⟨least, some most⟩, rest)
  | rest => return (⟨least, some least⟩, rest)

/-- This function reads a count in braces, after the opening brace. -/
def readCount (flags : Flags) (input : Text) : Except Fault (Count × Text) := do
  match ← readNumber flags (flags.skip input) with
  | (none, _) => throw .badCount
  | (some least, rest) =>
      let (count, rest) ← readMost flags least rest
      match rest with
      | '\x7d' :: rest =>
          if count.most.all (count.least ≤ ·) then return (count, rest) else throw .badCount
      | _ => throw .badCount

/-- A question mark after a repetition makes it lazy. -/
def readGreed : Text → Bool × Text
  | '?' :: rest => (false, rest)
  | rest => (true, rest)

/-- This function reads one part of an expression. -/
def readToken (machine : Machine) (char : Char) (rest : Text) : Except Fault (Machine × Text) := do
  let flags := machine.flags
  match char with
  | '(' => readGroup machine rest
  | ')' => return (← machine.closeGroup, rest)
  | '|' => return (machine.nextBranch, rest)
  | '[' =>
      let reading ← readSet flags rest
      return (machine.push ⟨.one reading.set, reading.depth⟩, reading.rest)
  | '?' =>
      let (greedy, rest) := readGreed rest
      return (← machine.repeatLast ⟨0, some 1⟩ greedy, rest)
  | '*' =>
      let (greedy, rest) := readGreed rest
      return (← machine.repeatLast ⟨0, none⟩ greedy, rest)
  | '+' =>
      let (greedy, rest) := readGreed rest
      return (← machine.repeatLast ⟨1, none⟩ greedy, rest)
  | '\x7b' =>
      let (count, rest) ← readCount flags rest
      let (greedy, rest) := readGreed (flags.skip rest)
      return (← machine.repeatLast count greedy, rest)
  | '.' => return (machine.pushSet (← flags.dot), rest)
  | '^' =>
      let assertion : Assertion :=
        if !flags.multiLine then .textStart
        else if flags.mixedLines then .mixedLineStart
        else .lineStart
      return (machine.push (.leaf (.check assertion)), rest)
  | '$' =>
      let assertion : Assertion :=
        if !flags.multiLine then .textEnd
        else if flags.mixedLines then .mixedLineEnd
        else .lineEnd
      return (machine.push (.leaf (.check assertion)), rest)
  | '\\' =>
      let (atom, rest) ← readEscape flags rest
      match atom with
      | .char char isByte => return (machine.pushSet (← flags.literal char isByte), rest)
      | .shorthand kind negated => return (machine.pushSet (← flags.shorthand negated kind), rest)
      | .property set negated => return (machine.pushSet (← flags.finishSet negated set), rest)
      | .anchor anchor => return (machine.push (.leaf (.check (anchor.assertion flags))), rest)
  | _ => return (machine.pushSet (← flags.literal char false), rest)

/-- This function reads the parts of an expression until the text ends. Each part takes at least
one character, so the length of the text is enough fuel. -/
def readTokens (machine : Machine) : Nat → Text → Except Fault Machine
  | 0, _ => .ok machine
  | fuel + 1, input =>
      match machine.flags.skip input with
      | [] => .ok machine
      | char :: rest =>
          match readToken machine char rest with
          | .error fault => .error fault
          | .ok (machine, rest) => readTokens machine fuel rest

/-- This function reads a regular expression. -/
def ofText? (input : Text) : Except Fault Regex := do
  let machine ← readTokens {} input.length input
  if !machine.frames.isEmpty then throw .unclosedGroup
  let body := machine.body
  if maxDepth < body.depth then throw .nestedTooDeep
  return body.expr

end HouseStyle.Regex
