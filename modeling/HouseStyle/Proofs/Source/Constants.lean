/-
This file proves which constants a file has. The last line with a bracket decides about the namespace
of a declaration, and the preferred reading of the declaration decides about its name.
-/

import Mathlib.Data.List.Induction
import HouseStyle.Proofs.Source.ConstantReading
import HouseStyle.Proofs.Source.Composition

namespace HouseStyle

open Regex

namespace Constant

/-- The line opens a namespace or starts with a closing brace. -/
def IsBracketLine (line : Text) : Prop :=
  (openerExpr.firstCapture? 1 line).isSome = true ∨ line.head? = some '\x7d'

/-- The last bracket line above opens the namespace. -/
def IsOpenBelow (above : List Text) (scope : Text) : Prop :=
  ∃ before opening between, above = before ++ opening :: between ∧
    openerExpr.firstCapture? 1 opening = some scope ∧ ∀ line ∈ between, ¬ IsBracketLine line

/-- A line with a bracket opens a namespace or closes one. -/
theorem isBracketLine_iff {line : Text} :
    IsBracketLine line ↔ (opener? line).isSome = true ∨ line.head? = some '\x7d' := by
  rw [IsBracketLine, firstCapture?_openerExpr]

/-- Only a bracket line changes the namespace. -/
theorem scopeAfter_of_not_isBracketLine {line : Text} (plain : ¬ IsBracketLine line)
    (scope : Option Text) : scopeAfter scope line = scope := by
  simp only [isBracketLine_iff, not_or, Bool.not_eq_true, Option.isSome_eq_false_iff,
    Option.isNone_iff_eq_none] at plain
  rw [scopeAfter, plain.1]
  exact if_neg (by simpa using plain.2)

/-- Lines without brackets leave the scope as it is. -/
theorem foldl_scopeAfter_of_not_isBracketLine {lines : List Text}
    (plain : ∀ line ∈ lines, ¬ IsBracketLine line) (scope : Option Text) :
    lines.foldl scopeAfter scope = scope := by
  induction lines with
  | nil => rfl
  | cons line lines inductionHypothesis =>
      rw [List.foldl_cons, scopeAfter_of_not_isBracketLine (plain line List.mem_cons_self)]
      exact inductionHypothesis fun other member => plain other (List.mem_cons_of_mem _ member)

/-- The namespace that is open comes from the last bracket line. -/
theorem foldl_scopeAfter_eq_some_iff {above : List Text} {scope : Text} :
    above.foldl scopeAfter none = some scope ↔ IsOpenBelow above scope := by
  constructor
  · intro isOpen
    induction above using List.reverseRecOn with
    | nil => contradiction
    | append_singleton above line inductionHypothesis =>
        rw [List.foldl_append, List.foldl_cons, List.foldl_nil] at isOpen
        by_cases plain : IsBracketLine line
        · rw [scopeAfter] at isOpen
          split at isOpen
          next opened found =>
            rw [isOpen, ← firstCapture?_openerExpr] at found
            exact ⟨above, line, [], rfl, found, by simp⟩
          next noOpener =>
            have closing : line.head? = some '\x7d' := by
              simpa [isBracketLine_iff, noOpener] using plain
            rw [closing] at isOpen
            contradiction
        · rw [scopeAfter_of_not_isBracketLine plain] at isOpen
          obtain ⟨before, opening, between, rfl, found, later⟩ := inductionHypothesis isOpen
          refine ⟨before, opening, between ++ [line], by simp, found, fun other member => ?_⟩
          rcases List.mem_append.mp member with inside | last
          · exact later other inside
          · rwa [List.mem_singleton.mp last]
  · rintro ⟨before, opening, between, rfl, found, plain⟩
    rw [firstCapture?_openerExpr] at found
    rw [List.foldl_append, List.foldl_cons, scopeAfter, found,
      foldl_scopeAfter_of_not_isBracketLine plain]

/-- A line has a constant if and only if it has no bracket, the expression captures a name, and a
namespace is open. -/
theorem onLine?_eq_some_iff {scope : Option Text} {number : Nat} {line : Text}
    {constant : Constant} :
    onLine? scope number line = some constant ↔ ¬ IsBracketLine line ∧
      declarationExpr.firstCapture? 1 line = some constant.name ∧ scope = some constant.scope ∧
        constant.line = number := by
  rw [firstCapture?_declarationExpr, isBracketLine_iff, onLine?, Option.ite_none_right_eq_some,
    Option.bind_eq_some_iff]
  simp only [Option.map_eq_some_iff, Bool.and_eq_true, Option.isNone_iff_eq_none, bne_iff_ne,
    not_or, Option.not_isSome_iff_eq_none, and_assoc]
  constructor
  · rintro ⟨noOpener, noClosing, opened, isOpen, name, declared, rfl⟩
    exact ⟨noOpener, noClosing, declared, isOpen, rfl⟩
  · rintro ⟨noOpener, noClosing, declared, isOpen, rfl⟩
    exact ⟨noOpener, noClosing, constant.scope, isOpen, constant.name, declared, rfl⟩

end Constant

namespace Symbols

/-- Every line that declares a constant in an open namespace has its constant. -/
theorem mem_constantsFrom_iff {scope : Option Text} {number : Nat} {lines : List Text}
    {constant : Constant} :
    constant ∈ constantsFrom scope number lines ↔ ∃ above line below,
      lines = above ++ line :: below ∧
        Constant.onLine? (above.foldl Constant.scopeAfter scope) (number + above.length) line =
          some constant := by
  constructor
  · intro member
    obtain ⟨index, line, isLine, declared⟩ := exists_line_of_mem_constantsFrom member
    obtain ⟨inside, rfl⟩ := List.getElem?_eq_some_iff.mp isLine
    refine ⟨lines.take index, lines[index], lines.drop (index + 1), ?_, ?_⟩
    · rw [← List.drop_eq_getElem_cons inside, List.take_append_drop]
    · rwa [List.length_take_of_le (Nat.le_of_lt inside)]
  · rintro ⟨above, line, below, rfl, declared⟩
    rw [constantsFrom_append, constantsFrom_cons, declared]
    simp

/-- The constants of a file are the names that the two expressions capture, one for each declaration
below an opened namespace, from the top to the bottom. A name is as long as its characters allow. -/
theorem constants_eq_scan (frameworks lines : List Text) :
    Regex.ofText? "^namespace ([A-Z_][A-Z0-9_]*) ?\\\x7b".toList = .ok Constant.openerExpr ∧
    Regex.ofText? r"^.*const [^=]+ ([A-Z_][A-Z0-9_]*)(;|[^)]+;)".toList =
      .ok Constant.declarationExpr ∧
    ((ofLines frameworks lines).constants.map Constant.line).Pairwise (· < ·) ∧
    (∀ constant, constant ∈ (ofLines frameworks lines).constants ↔ ∃ above line below,
      lines = above ++ line :: below ∧ ¬ Constant.IsBracketLine line ∧
      Constant.declarationExpr.firstCapture? 1 line = some constant.name ∧
      Constant.IsOpenBelow above constant.scope ∧ constant.line = above.length + 1) ∧
    ∀ line name, Constant.declarationExpr.firstCapture? 1 line = some name ↔
      ∃ reading : Constant.Reading line, reading.IsPreferred ∧ reading.name = name ∧
        ∃ char rest, reading.tail = char :: rest ∧ Constant.isNamePart char = false := by
  refine ⟨Constant.ofText?_openerExpr, Constant.ofText?_declarationExpr,
    (constantsFrom_ascending none 1 lines).increasing, fun constant => ?_, fun line name => ?_⟩
  · refine mem_constantsFrom_iff.trans ?_
    simp only [Constant.onLine?_eq_some_iff, Constant.foldl_scopeAfter_eq_some_iff,
      Nat.add_comm 1]
  · rw [Constant.firstCapture?_declarationExpr, Constant.name?_eq_some_iff_preferred]
    constructor
    · rintro ⟨reading, preferred, isName⟩
      exact ⟨reading, preferred, isName, preferred.longest⟩
    · rintro ⟨reading, preferred, isName, -⟩
      exact ⟨reading, preferred, isName⟩

/-- The name of a constant starts where an identifier of its line starts, and it ends before the first
small letter of this identifier. It is a whole identifier only if there is no such letter. -/
theorem constantName_isApart_iff {frameworks lines : List Text} {constant : Constant}
    (member : constant ∈ (ofLines frameworks lines).constants) :
    ∃ line, lines[constant.line - 1]? = some line ∧ ∃ reading : Constant.Reading line,
      reading.IsPreferred ∧ reading.name = constant.name ∧
      line = reading.before ++ reading.identifier ++ reading.after ∧
      Text.IsApart reading.before reading.after ∧
      constant.name = reading.identifier.takeWhile Constant.isNamePart ∧
      (Text.IsApart reading.before reading.tail ↔
        ∀ char ∈ reading.identifier, Constant.isNamePart char = true) := by
  obtain ⟨above, line, below, rfl, declared⟩ := mem_constantsFrom_iff.mp member
  obtain ⟨-, found, -, sum⟩ := Constant.onLine?_eq_some_iff.mp declared
  rw [Constant.firstCapture?_declarationExpr, Constant.name?_eq_some_iff_preferred] at found
  obtain ⟨reading, preferred, isName⟩ := found
  refine ⟨line, by simp [sum], reading, preferred, isName, reading.append_identifier.symm,
    reading.isApart_identifier, ?_, preferred.isApart_iff⟩
  rw [← isName]
  exact preferred.name_eq_takeWhile

/-- A name in capital letters is a whole identifier also if there is no space after it. -/
theorem constantName_isApart_iff_array :
    let lines := ["namespace MOB \x7b".toList, "  const char NAME_2[4] = \"abc\";".toList]
    let constant : Constant := { name := "NAME_2".toList, scope := "MOB".toList, line := 2 }
    constant ∈ (ofLines [] lines).constants ∧
    ∃ line, lines[constant.line - 1]? = some line ∧ ∃ reading : Constant.Reading line,
      reading.IsPreferred ∧ reading.name = constant.name ∧
      line = reading.before ++ reading.identifier ++ reading.after ∧
      Text.IsApart reading.before reading.after ∧
      constant.name = reading.identifier.takeWhile Constant.isNamePart ∧
      (Text.IsApart reading.before reading.tail ↔
        ∀ char ∈ reading.identifier, Constant.isNamePart char = true) := by
  intro lines constant
  have member : constant ∈ (ofLines [] lines).constants := by decide
  exact ⟨member, constantName_isApart_iff member⟩

/-- Two names with small letters are recorded as the same letter, which stands nowhere on their lines
as a word. -/
theorem not_hasWord_constantName :
    ¬ ∀ frameworks lines, ∀ constant ∈ (ofLines frameworks lines).constants, ∃ line,
      lines[constant.line - 1]? = some line ∧ Text.HasWord constant.name line := by
  intro complete
  have recorded : (ofLines [] ["namespace N \x7b".toList, "const int Foo = 1;".toList,
      "const int Far = 2;".toList]).constants =
        [{ name := "F".toList, scope := "N".toList, line := 2 },
          { name := "F".toList, scope := "N".toList, line := 3 }] := by
    decide
  obtain ⟨line, isLine, word⟩ := complete [] _ _ (recorded ▸ List.mem_cons_self)
  obtain rfl := Option.some.inj isLine
  exact absurd word (by decide)

end Symbols

end HouseStyle
