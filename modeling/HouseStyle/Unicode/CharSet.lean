/-
This file defines sets of characters that are built from runs and tables with set operations.
-/

import HouseStyle.Unicode.Case

namespace HouseStyle.Unicode

/-- The code points that differ from `code` only in case, with the common folded one first. -/
def caseVariants (code : Nat) : List Nat :=
  let folded := foldShifts.image code
  folded :: foldShifts.sources folded

/-- The ASCII letters that differ from `code` only in case. -/
def asciiCaseVariants (code : Nat) : List Nat :=
  if 0x41 ≤ code && code ≤ 0x5A then [code, code + 32]
  else if 0x61 ≤ code && code ≤ 0x7A then [code, code - 32]
  else [code]

inductive CharSet where
  /-- The code points from `first` to `last`. -/
  | span (first last : Nat)
  | table (codes : Ranges)
  | union (left right : CharSet)
  | inter (left right : CharSet)
  | difference (left right : CharSet)
  | symmetricDifference (left right : CharSet)
  | complement (set : CharSet)
  /-- The characters that have a case variant in the set. -/
  | caseless (set : CharSet)
  /-- The same for the ASCII letters only. -/
  | asciiCaseless (set : CharSet)

namespace CharSet

def contains (code : Nat) : CharSet → Bool
  | span first last => first ≤ code && code ≤ last
  | table codes => Ranges.contains code codes
  | union left right => left.contains code || right.contains code
  | inter left right => left.contains code && right.contains code
  | difference left right => left.contains code && !right.contains code
  | symmetricDifference left right => left.contains code != right.contains code
  | complement set => !set.contains code
  | caseless set =>
      if code < 0x80 && set.contains code then true
      else (caseVariants code).any fun variant => set.contains variant
  | asciiCaseless set => (asciiCaseVariants code).any fun variant => set.contains variant

/-- No code point is above `0x10FFFF`, so this set is empty. -/
def empty : CharSet := span 1 0

def all : CharSet := span 0 0x10FFFF

def single (char : Char) : CharSet := span char.toNat char.toNat

/-- The characters from one character to another. -/
def between (first last : Char) : CharSet := span first.toNat last.toNat

/-- The union of several sets. -/
def anyOf (sets : List CharSet) : CharSet :=
  sets.foldr union empty

/-- The union of several tables. -/
def tables (tables : List Ranges) : CharSet :=
  anyOf (tables.map table)

def complementIf (negated : Bool) (set : CharSet) : CharSet :=
  if negated then complement set else set

end CharSet

end HouseStyle.Unicode
