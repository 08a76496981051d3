/-
This file defines regular expressions over characters, with assertions about the place between two
characters, and how deep they are nested.
-/

import HouseStyle.Text.Basic
import HouseStyle.Unicode.Naming

namespace HouseStyle.Regex

open Unicode

/-- The characters on both sides of a place in a text. -/
structure Place where
  before : Option Char
  after : Option Char

/-- An assertion holds at a place and consumes nothing. `word` says which characters belong to
words. -/
inductive Assertion where
  | textStart
  | textEnd
  | lineStart
  | lineEnd
  /-- Lines that may also end with a carriage return. -/
  | mixedLineStart
  | mixedLineEnd
  | boundary (word : CharSet)
  | notBoundary (word : CharSet)
  | wordStart (word : CharSet)
  | wordEnd (word : CharSet)
  | wordStartHalf (word : CharSet)
  | wordEndHalf (word : CharSet)

def isWord (word : CharSet) : Option Char → Bool
  | none => false
  | some char => word.contains char.toNat

def Assertion.holds (place : Place) : Assertion → Bool
  | textStart => place.before.isNone
  | textEnd => place.after.isNone
  | lineStart => place.before.isNone || place.before == some '\n'
  | lineEnd => place.after.isNone || place.after == some '\n'
  | mixedLineStart =>
      place.before.isNone || place.before == some '\n' ||
        (place.before == some '\r' && place.after != some '\n')
  | mixedLineEnd =>
      place.after.isNone || place.after == some '\r' ||
        (place.after == some '\n' && place.before != some '\r')
  | boundary word => isWord word place.before != isWord word place.after
  | notBoundary word => isWord word place.before == isWord word place.after
  | wordStart word => !isWord word place.before && isWord word place.after
  | wordEnd word => isWord word place.before && !isWord word place.after
  | wordStartHalf word => !isWord word place.before
  | wordEndHalf word => !isWord word place.after

/-- The number of repetitions is at least `least`, and at most `most` if that is given. -/
structure Count where
  least : Nat
  most : Option Nat

end Regex

open Regex in
/-- A regular expression. A repetition is greedy if it prefers more rounds. -/
inductive Regex where
  | empty
  | one (set : Unicode.CharSet)
  | check (assertion : Assertion)
  | sequence (first second : Regex)
  | choice (first second : Regex)
  | repeated (body : Regex) (count : Count) (greedy : Bool)
  /-- A group that captures the text it matches. The groups of an expression are numbered from 1
  in the order of their opening parentheses. -/
  | capture (number : Nat) (body : Regex)

namespace Regex

/-- The concatenation of several expressions. -/
def concat : List Regex → Regex
  | [] => .empty
  | [item] => item
  | item :: items => .sequence item (concat items)

/-- The choice between several expressions. -/
def alternatives : List Regex → Regex
  | [] => .empty
  | [item] => item
  | item :: items => .choice item (alternatives items)

/-- An expression with the number of levels below it. -/
structure Node where
  expr : Regex
  depth : Nat

/-- One level above the deepest of some nodes. -/
def levelAbove (nodes : List Node) : Nat :=
  1 + (nodes.map (·.depth)).foldr max 0

namespace Node

/-- A part without parts of its own. -/
def leaf (expr : Regex) : Node :=
  ⟨expr, 0⟩

/-- A single part needs no sequence. -/
def sequence : List Node → Node
  | [] => leaf .empty
  | [node] => node
  | nodes => ⟨concat (nodes.map (·.expr)), levelAbove nodes⟩

/-- A single alternative needs no choice. -/
def choice : List Node → Node
  | [] => leaf .empty
  | [node] => node
  | nodes => ⟨alternatives (nodes.map (·.expr)), levelAbove nodes⟩

def repeated (node : Node) (count : Count) (greedy : Bool) : Node :=
  ⟨.repeated node.expr count greedy, node.depth + 1⟩

/-- Parentheses around a part. -/
def group (node : Node) : Node :=
  { node with depth := node.depth + 1 }

end Node

/-- An expression with more levels is not compiled. -/
def maxDepth : Nat := 250

end Regex

end HouseStyle
