/-
This file reads glob patterns. A pattern stands for a regular expression over the bytes of a path.
A pattern that can be read may still stand for an expression that is nested too deep to be compiled.
-/

import HouseStyle.Path.Basic
import HouseStyle.Regex.Search

namespace HouseStyle.Glob

open Unicode Regex

inductive Fault where
  | unclosedClass
  | invalidRange
  | unopenedChoice
  | unclosedChoice
  | danglingEscape
  deriving DecidableEq, Repr

/-- `strictSeparator` keeps `*` and `?` inside one component. `looseClass` lets an opening bracket
without a closing one stand for itself. -/
structure Options where
  strictSeparator : Bool := false
  looseClass : Bool := false

/-- The bytes of a text, each as the character with that code. -/
def bytes (text : Text) : Text :=
  text.flatMap fun char => (String.utf8EncodeChar char).map fun byte => Char.ofNat byte.toNat

/-- A part of a pattern. The three forms of `**` depend on the parts around them. -/
inductive Token where
  /-- The pattern starts with `**/`. -/
  | anyStart
  /-- The pattern ends with `/**`. -/
  | anyEnd
  /-- The pattern has `/**/` inside. -/
  | anyMiddle
  /-- The parts of the expression that stand for the part of the pattern. -/
  | plain (nodes : List Node)

def anyByte : Node := .leaf (.one .all)

def slash : Node := .leaf (.one (.single '/'))

def repeatAny (node : Node) : Node :=
  node.repeated ⟨0, none⟩ true

/-- A choice stands in parentheses. -/
def groupOf (branches : List Node) : Node :=
  (Node.choice branches).group

def Token.nodes : Token → List Node
  | anyStart => [groupOf [slash.repeated ⟨0, some 1⟩ true, .sequence [repeatAny anyByte, slash]]]
  | anyEnd => [slash, repeatAny anyByte]
  | anyMiddle => [groupOf [slash, .sequence [slash, repeatAny anyByte, slash]]]
  | plain nodes => nodes

/-- The set of a class is one level deep, and two if it is the union of several items. -/
def classNode (negated : Bool) (items : List CharSet) : Node :=
  ⟨.one (.complementIf negated (.anyOf items)), if items.length ≤ 1 then 1 else 2⟩

/-- The expression for a byte that `?` matches. -/
def Options.wildByte (options : Options) : Node :=
  if options.strictSeparator then classNode true [.single '/'] else anyByte

def literal (char : Char) : Token :=
  .plain ((bytes [char]).map fun byte => .leaf (.one (.single byte)))

/-- A choice that is open. `finished` holds its finished branches in reverse, and `outer` the
tokens in front of it in reverse. -/
structure Level where
  finished : List (List Token)
  outer : List Token

/-- The state of the reader: the tokens of the current branch in reverse, the open choices, and
whether an opening bracket was found to be a literal one. -/
structure State where
  current : List Token := []
  levels : List Level := []
  looseBracket : Bool := false

def State.push (state : State) (token : Token) : State :=
  { state with current := token :: state.current }

def sequenceOf (tokens : List Token) : Node :=
  .sequence (tokens.reverse.flatMap Token.nodes)

/-- A branch is dropped if it consists of empty parts only. -/
def isEmptyBranch (tokens : List Token) : Bool :=
  tokens.all fun token => token.nodes.isEmpty

/-- The choice between some branches, which stand in reverse. It has no expression if all branches
are dropped. -/
def choiceOf (branches : List (List Token)) : Token :=
  match (branches.reverse.filter fun branch => !isEmptyBranch branch).map sequenceOf with
  | [] => .plain []
  | nodes => .plain [groupOf nodes]

/-- The items of a class. A range goes from the last byte of its first character to the first byte
of its last character. -/
def rangeItems (first last : Char) : List CharSet :=
  let low := bytes [first]
  let high := bytes [last]
  if first = last then low.map .single
  else
    (low.dropLast.map .single) ++
      .between (low.getLast?.getD first) (high.head?.getD last) :: (high.drop 1).map .single

/-- A class that is being read. `ranges` stand in reverse. -/
structure ClassState where
  ranges : List (Char × Char) := []
  inRange : Bool := false

inductive ClassReading where
  | unclosed
  | invalid
  | closed (ranges : List (Char × Char)) (rest : Text)

/-- This function reads the characters of a class. A closing bracket or a hyphen at the beginning
stands for itself, and so does a hyphen at the end. -/
def readClass (state : ClassState) (isFirst : Bool) : Text → ClassReading
  | [] => .unclosed
  | char :: rest =>
      if char = ']' && !isFirst then
        .closed (if state.inRange then ('-', '-') :: state.ranges else state.ranges) rest
      else if state.inRange then
        match state.ranges with
        | (low, _) :: ranges =>
            if char < low then .invalid else readClass ⟨(low, char) :: ranges, false⟩ false rest
        | [] => .invalid
      else if char = '-' && !isFirst then readClass { state with inRange := true } false rest
      else readClass ⟨(char, char) :: state.ranges, false⟩ false rest

/-- A step of the reader gives the new state and the number of characters that it takes. -/
abbrev Step := Except Fault (State × Nat)

/-- A class is negated if it begins with one of two signs. -/
def splitSign : Text → Bool × Text
  | '!' :: body => (true, body)
  | '^' :: body => (true, body)
  | body => (false, body)

/-- This function reads a class after its opening bracket. -/
def stepClass (options : Options) (state : State) (rest : Text) : Step :=
  let (negated, body) := splitSign rest
  match readClass {} true body with
  | .closed ranges after =>
      let items := ranges.reverse.flatMap fun (first, last) => rangeItems first last
      .ok (state.push (.plain [classNode negated items]), 1 + rest.length - after.length)
  | .invalid => .error .invalidRange
  | .unclosed =>
      if options.looseClass then .ok ({ state.push (literal '[') with looseBracket := true }, 1)
      else .error .unclosedClass

/-- Two stars take the place of the separator in front of them, except after other ones that took
it before. -/
def State.replaceLast (state : State) (token : Token) : State :=
  match state.current with
  | [] => state
  | .anyStart :: _ => state
  | .anyEnd :: _ => state
  | _ :: others => { state with current := token :: others }

/-- This function reads a star. `previous` is the character before it. -/
def stepStar (options : Options) (state : State) (previous : Option Char) (rest : Text) :
    State × Nat :=
  let star : Token := .plain [repeatAny options.wildByte]
  match rest with
  | '*' :: after =>
      let twoStars := ((state.push star).push star, 2)
      match state.current with
      | [] =>
          match after with
          | [] => (state.push .anyStart, 2)
          | '/' :: _ => (state.push .anyStart, 3)
          | _ => twoStars
      | _ :: _ =>
          if previous ≠ some '/' &&
              (state.levels.isEmpty || (previous ≠ some ',' && previous ≠ some '\x7b')) then
            twoStars
          else
            match after with
            | [] => (state.replaceLast .anyEnd, 2)
            | '/' :: _ => (state.replaceLast .anyMiddle, 3)
            | char :: _ =>
                if !state.levels.isEmpty && (char = ',' || char = '\x7d') then
                  (state.replaceLast .anyEnd, 2)
                else twoStars
  | _ => (state.push star, 1)

/-- This function reads one part of a pattern, which starts with `char`. -/
def step (options : Options) (state : State) (previous : Option Char) (char : Char)
    (rest : Text) : Step :=
  match char with
  | '?' => .ok (state.push (.plain [options.wildByte]), 1)
  | '*' => .ok (stepStar options state previous rest)
  | '[' =>
      if state.looseBracket then .ok (state.push (literal '['), 1)
      else stepClass options state rest
  | '\x7b' =>
      .ok ({ state with current := [], levels := ⟨[], state.current⟩ :: state.levels }, 1)
  | '\x7d' =>
      match state.levels with
      | [] => .error .unopenedChoice
      | level :: levels =>
          let token := choiceOf (state.current :: level.finished)
          .ok ({ state with current := token :: level.outer, levels }, 1)
  | ',' =>
      match state.levels with
      | [] => .ok (state.push (literal ','), 1)
      | level :: levels =>
          let level := { level with finished := state.current :: level.finished }
          .ok ({ state with current := [], levels := level :: levels }, 1)
  | '\\' =>
      match rest with
      | [] => .error .danglingEscape
      | escaped :: _ => .ok (state.push (literal escaped), 2)
  | _ => .ok (state.push (literal char), 1)

/-- This function reads the parts of a pattern. Each part takes at least one character, so the
length of the pattern is enough fuel. -/
def readParts (options : Options) (state : State) (previous : Option Char) :
    Nat → Text → Except Fault State
  | 0, _ => .ok state
  | fuel + 1, input =>
      match input with
      | [] => .ok state
      | char :: rest =>
          match step options state previous char rest with
          | .error fault => .error fault
          | .ok (state, taken) =>
              readParts options state (input.take taken).getLast? fuel (input.drop taken)

end Glob

/-- A glob pattern is the regular expression for the paths that it matches from their first byte to
their last one. -/
structure Glob where
  node : Regex.Node

namespace Glob

/-- The expression between the beginning and the end of a path. -/
def ofNodes (nodes : List Regex.Node) : Glob where
  node := .sequence (.leaf (.check .textStart) :: nodes ++ [.leaf (.check .textEnd)])

/-- This function reads a pattern. The pattern `**` alone matches every path. -/
def ofText? (options : Options) (pattern : Text) : Except Fault Glob :=
  match readParts options {} none pattern.length pattern with
  | .error fault => .error fault
  | .ok state =>
      if !state.levels.isEmpty then .error .unclosedChoice
      else
        match state.current with
        | [.anyStart] => .ok (ofNodes [repeatAny anyByte])
        | tokens => .ok (ofNodes (tokens.reverse.flatMap Token.nodes))

/-- Only an expression that is not nested too deep can be compiled. -/
def compiles (glob : Glob) : Bool :=
  glob.node.depth ≤ Regex.maxDepth

/-- The pattern matches the whole path. -/
def covers (glob : Glob) (path : Path) : Bool :=
  Regex.occursIn glob.node.expr (bytes path)

end Glob

end HouseStyle
