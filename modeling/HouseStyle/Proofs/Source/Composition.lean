/-
This file proves that the symbols of a file are those of its first lines followed by those of its
other lines.
-/

import HouseStyle.Proofs.Source.Lines
import HouseStyle.Proofs.Source.Signature

namespace HouseStyle

def Function.shift (count : Nat) (function : Function) : Function :=
  { function with line := function.line + count }

def Include.shift (count : Nat) (directive : Include) : Include :=
  { directive with line := directive.line + count }

def Constant.shift (count : Nat) (constant : Constant) : Constant :=
  { constant with line := constant.line + count }

namespace Definition

/-- What is left without the standard scope is part of the line. -/
theorem mem_of_mem_dropStandardScope {char : Char} {line : Text}
    (member : char ∈ dropStandardScope line) : char ∈ line := by
  fun_induction dropStandardScope line with
  | case1 => exact member
  | case2 rest inductionHypothesis => simp [inductionHypothesis member]
  | case3 first rest _ inductionHypothesis =>
      rcases List.mem_cons.mp member with same | later
      · exact List.mem_cons.mpr (Or.inl same)
      · exact List.mem_cons_of_mem _ (inductionHypothesis later)

/-- A name that is called has a parenthesis behind it. -/
theorem mem_of_nameBefore? {text name : Text} (found : nameBefore? text = some name) :
    '(' ∈ text := by
  rw [nameBefore?] at found
  split at found
  next cut => simp [(Text.cutAt?_spec cut).1]
  next => simp at found

/-- A line with a scope and a name has a parenthesis. -/
theorem mem_of_splitScope? {line : Text} {parts : Text × Text}
    (found : splitScope? line = some parts) : '(' ∈ line := by
  induction line generalizing parts with
  | nil => simp [splitScope?] at found
  | cons char rest inductionHypothesis =>
      unfold splitScope? at found
      split at found
      next => simp at found
      next =>
        split at found
        next qualifier name later => exact List.mem_cons_of_mem _ (inductionHypothesis later)
        next =>
          split at found
          next after =>
            obtain ⟨name, before, _⟩ := Option.map_eq_some_iff.mp found
            simp [mem_of_nameBefore? before]
          next => simp at found

/-- A line without a parenthesis declares no function. -/
theorem mem_of_ofLine? {line : Text} {parts : Text × Text} (found : ofLine? line = some parts) :
    '(' ∈ line := by
  rw [ofLine?] at found
  split at found
  next =>
    apply mem_of_mem_dropStandardScope
    obtain ⟨found, _⟩ := Option.filter_eq_some_iff.mp found
    cases method : scoped? (dropStandardScope line) with
    | some found =>
        obtain ⟨split, same, _⟩ := Option.map_eq_some_iff.mp method
        exact mem_of_splitScope? same
    | none =>
        have free : free? (dropStandardScope line) = some parts := by simpa [method] using found
        obtain ⟨⟨before, after⟩, cut, _⟩ := Option.bind_eq_some_iff.mp free
        simp [(Text.cutAt?_spec cut).1]
  next => simp at found

end Definition

namespace Constant

/-- The namespace that is open after a line. -/
def scopeAfter (scope : Option Text) (line : Text) : Option Text :=
  match opener? line with
  | some opened => some opened
  | none => if line.head? == some '\x7d' then none else scope

/-- The constant that a line declares in an open namespace. -/
def onLine? (scope : Option Text) (number : Nat) (line : Text) : Option Constant :=
  if (opener? line).isNone && line.head? != some '\x7d' then
    scope.bind fun opened => (name? line).map fun name => { name, scope := opened, line := number }
  else none

/-- A constant moves down with its line. -/
theorem onLine?_shift (scope : Option Text) (number count : Nat) (line : Text) :
    onLine? scope (number + count) line = (onLine? scope number line).map (shift count) := by
  unfold onLine?
  split
  next =>
    cases scope with
    | none => rfl
    | some opened => cases name? line <;> rfl
  next => rfl

/-- Every line that opens a namespace has a line below it that closes it. -/
def ClosesScopes : List Text → Prop
  | [] => True
  | line :: lines =>
      ((opener? line).isSome = true → ∃ closing ∈ lines, closing.head? = some '\x7d') ∧
        ClosesScopes lines

instance decidableClosesScopes : (lines : List Text) → Decidable (ClosesScopes lines)
  | [] => .isTrue trivial
  | _ :: lines =>
      have := decidableClosesScopes lines
      inferInstanceAs (Decidable (_ ∧ _))

/-- No namespace is open after lines that close all of them. -/
theorem foldl_scopeAfter {lines : List Text} (closes : ClosesScopes lines) {scope : Option Text}
    (outside : scope = none ∨ ∃ closing ∈ lines, closing.head? = some '\x7d') :
    lines.foldl scopeAfter scope = none := by
  induction lines generalizing scope with
  | nil => simpa using outside
  | cons line lines inductionHypothesis =>
      rw [List.foldl_cons]
      apply inductionHypothesis closes.2
      rw [scopeAfter]
      split
      next opened found => exact Or.inr (closes.1 (by rw [found]; rfl))
      next =>
        split
        next => exact Or.inl rfl
        next inside =>
          rcases outside with same | ⟨closing, member, brace⟩
          · exact Or.inl same
          · refine Or.inr ⟨closing, ?_, brace⟩
            rcases List.mem_cons.mp member with rfl | member
            · simp [brace] at inside
            · exact member

end Constant

namespace Symbols

def shift (count : Nat) (symbols : Symbols) : Symbols where
  functions := symbols.functions.map (Function.shift count)
  includes := symbols.includes.map (Include.shift count)
  constants := symbols.constants.map (Constant.shift count)

def append (first second : Symbols) : Symbols where
  functions := first.functions ++ second.functions
  includes := first.includes ++ second.includes
  constants := first.constants ++ second.constants

/-- Functions move down with the number of the first line. -/
theorem functionsFrom_shift (number count : Nat) (lines : List Text) :
    functionsFrom (number + count) lines =
      (functionsFrom number lines).map (Function.shift count) := by
  induction lines generalizing number with
  | nil => rfl
  | cons line lines inductionHypothesis =>
      have later := inductionHypothesis (number + 1)
      rw [Nat.add_right_comm] at later
      rw [functionsFrom, functionsFrom, later]
      split <;> rfl

/-- Includes move down with the number of the first line. -/
theorem includesFrom_shift (frameworks : List Text) (number count : Nat) (lines : List Text) :
    includesFrom frameworks (number + count) lines =
      (includesFrom frameworks number lines).map (Include.shift count) := by
  induction lines generalizing number with
  | nil => rfl
  | cons line lines inductionHypothesis =>
      have later := inductionHypothesis (number + 1)
      rw [Nat.add_right_comm] at later
      rw [includesFrom, includesFrom, later]
      split <;> rfl

/-- The first line may have a constant, and it may change the scope of those below. -/
theorem constantsFrom_cons (scope : Option Text) (number : Nat) (line : Text) (lines : List Text) :
    constantsFrom scope number (line :: lines) =
      (Constant.onLine? scope number line).toList ++
        constantsFrom (Constant.scopeAfter scope line) (number + 1) lines := by
  unfold Constant.onLine? Constant.scopeAfter
  conv =>
    lhs
    unfold constantsFrom
  cases Constant.opener? line with
  | some opened => rfl
  | none =>
      cases brace : line.head? == some '\x7d' with
      | true => simp [brace, bne]
      | false =>
          cases scope with
          | none => simp [brace, bne]
          | some opened => cases Constant.name? line <;> simp [brace, bne]

/-- Constants move down with the number of the first line. -/
theorem constantsFrom_shift (scope : Option Text) (number count : Nat) (lines : List Text) :
    constantsFrom scope (number + count) lines =
      (constantsFrom scope number lines).map (Constant.shift count) := by
  induction lines generalizing scope number with
  | nil => rfl
  | cons line lines inductionHypothesis =>
      have later := inductionHypothesis (Constant.scopeAfter scope line) (number + 1)
      rw [Nat.add_right_comm] at later
      rw [constantsFrom_cons, constantsFrom_cons, later, Constant.onLine?_shift, List.map_append]
      cases Constant.onLine? scope number line <;> rfl

/-- The includes of two parts are those of each part. -/
theorem includesFrom_append (frameworks : List Text) (number : Nat) (first second : List Text) :
    includesFrom frameworks number (first ++ second) =
      includesFrom frameworks number first ++
        includesFrom frameworks (number + first.length) second := by
  induction first generalizing number with
  | nil => rfl
  | cons line first inductionHypothesis =>
      have later := inductionHypothesis (number + 1)
      rw [List.cons_append, includesFrom, includesFrom, later, List.length_cons,
        show number + (first.length + 1) = number + 1 + first.length by omega]
      split <;> rfl

/-- The constants of the second part have the scope that the first part leaves open. -/
theorem constantsFrom_append (scope : Option Text) (number : Nat) (first second : List Text) :
    constantsFrom scope number (first ++ second) =
      constantsFrom scope number first ++
        constantsFrom (first.foldl Constant.scopeAfter scope) (number + first.length) second := by
  induction first generalizing scope number with
  | nil => rfl
  | cons line first inductionHypothesis =>
      rw [List.cons_append, constantsFrom_cons, constantsFrom_cons, inductionHypothesis,
        List.foldl_cons, List.length_cons, List.append_assoc,
        show number + (first.length + 1) = number + 1 + first.length by omega]

theorem le_line_of_mem_functionsFrom {number : Nat} {lines : List Text} {function : Function}
    (member : function ∈ functionsFrom number lines) : number ≤ function.line :=
  ((functionsFrom_ascending number lines).bounds _ (List.mem_map_of_mem member)).1

/-- The functions of two parts are those of each part, if each signature of the first part ends
there. The induction is on the lines of the first part. -/
theorem functionsFrom_append {number : Nat} {first : List Text}
    (closes : ∀ function ∈ functionsFrom number first,
      Signature.ClosesWithin (first.drop (function.line - number))) (second : List Text) :
    functionsFrom number (first ++ second) =
      functionsFrom number first ++ functionsFrom (number + first.length) second := by
  induction first generalizing number with
  | nil => rfl
  | cons line first inductionHypothesis =>
      have dropped {function : Function} (member : function ∈ functionsFrom (number + 1) first) :
          (line :: first).drop (function.line - number) =
            first.drop (function.line - (number + 1)) := by
        have above := le_line_of_mem_functionsFrom member
        rw [show function.line - number = function.line - (number + 1) + 1 by omega]
        rfl
      rw [functionsFrom] at closes
      rw [List.cons_append, functionsFrom, functionsFrom, List.length_cons,
        show number + (first.length + 1) = number + 1 + first.length by omega]
      split
      next missing =>
        rw [missing] at closes
        exact inductionHypothesis fun function member => dropped member ▸ closes function member
      next scope name found =>
        rw [found] at closes
        have later := inductionHypothesis fun function member =>
          dropped member ▸ closes function (List.mem_cons_of_mem _ member)
        have head := closes _ List.mem_cons_self
        rw [Nat.sub_self] at head
        have opens := Definition.mem_of_ofLine? found
        have same := Signature.parameters_collect_append opens head second
        rw [List.cons_append] at same
        rw [later, same]
        rfl

/-- The symbols of two parts of a file do not influence each other. The first part has to close the
parameter list of every function and every namespace. -/
theorem ofLines_append (frameworks first second : List Text)
    (closes : ∀ function ∈ (ofLines frameworks first).functions,
      Signature.ClosesWithin (first.drop (function.line - 1)))
    (scopes : Constant.ClosesScopes first) :
    ofLines frameworks (first ++ second) =
      (ofLines frameworks first).append ((ofLines frameworks second).shift first.length) := by
  have functions := functionsFrom_append closes second
  rw [functionsFrom_shift] at functions
  have constants := constantsFrom_append none 1 first second
  rw [Constant.foldl_scopeAfter scopes (Or.inl rfl), constantsFrom_shift] at constants
  have includes := includesFrom_append frameworks 1 first second
  rw [includesFrom_shift] at includes
  rw [ofLines, functions, includes, constants]
  rfl

/-- A method over two lines and a constant stand before another include and function. -/
theorem ofLines_append_two_parts :
    let first := ["void A::f(int a,".toList, "    int b) \x7b".toList, "\x7d".toList,
      "namespace N \x7b".toList, "const int X = 1;".toList, "\x7d".toList]
    let second := ["#include <b>".toList, "void g(int c) \x7b".toList]
    ofLines [] (first ++ second) = (ofLines [] first).append ((ofLines [] second).shift 6) ∧
      (ofLines [] (first ++ second)).functions.map (·.line) = [1, 8] := by
  intro first second
  exact ⟨ofLines_append [] first second (by decide) (by decide), by decide⟩

end Symbols

end HouseStyle
