/-
This file proves which details have line feeds. They come from forbidden expressions only.
-/

import HouseStyle.Proofs.Regex.Inside
import HouseStyle.Proofs.Rule.Finding
import HouseStyle.Proofs.Source.LineFeed

namespace HouseStyle

section Columns

theorem not_mem_ofNat (number : Nat) : '\n' ∉ Text.ofNat number := fun member =>
  absurd (Nat.isDigit_of_mem_toDigits (by decide) (by decide) member) (by decide)

/-- A column shows the beginning of a text. -/
theorem mem_field_iff {width : Nat} {text : Text} :
    '\n' ∈ Text.field width text ↔ '\n' ∈ text.take width := by
  simp [Text.field]

theorem not_mem_field {text : Text} (absent : '\n' ∉ text) (width : Nat) :
    '\n' ∉ Text.field width text :=
  mt mem_field_iff.mp fun member => absent (List.mem_of_mem_take member)

theorem not_mem_lineField (line : Nat) : '\n' ∉ lineField line :=
  not_mem_field (not_mem_ofNat line) 4

/-- The full name of a function is a single line if the symbols are. -/
theorem Symbols.IsFlat.fullNames {symbols : Symbols} (flat : symbols.IsFlat) {function : Function}
    (declared : function ∈ symbols.functions) : '\n' ∉ function.fullName := by
  have scope := flat.scopes function declared
  have name := flat.names function declared
  rw [Function.fullName]
  split
  next => exact name
  next => simp [scope, name]

/-- The detail about two single-line names is a single line. -/
theorem Ordering.not_mem_pairDetail {firstLine firstWidth secondLine secondWidth : Nat}
    {firstName secondName : Text} (first : '\n' ∉ firstName) (second : '\n' ∉ secondName) :
    '\n' ∉ pairDetail firstLine firstWidth firstName secondLine secondWidth secondName := by
  simp [pairDetail, not_mem_lineField, not_mem_field first, not_mem_field second]

/-- The detail about a single-line parameter is a single line. -/
theorem Documentation.not_mem_parameterProblem {kind : ProblemKind} {function : Function}
    {name : Text} (fullName : '\n' ∉ function.fullName) (plain : '\n' ∉ name) :
    '\n' ∉ (parameterProblem kind function name).detail := by
  simp [parameterProblem, not_mem_lineField, not_mem_field fullName, plain]

end Columns

/-- Neither the lines of the file nor the names of its symbols have line feeds. -/
structure Source.IsFlat (source : Source) : Prop where
  lines : ∀ line ∈ source.lines, '\n' ∉ line
  symbols : ∀ symbols, source.symbols = some symbols → symbols.IsFlat

/-- The detail shows the beginning of the expression between the line number and the line. -/
def Problem.Shows (pattern : Text) (problem : Problem) : Prop :=
  problem.kind = .forbiddenToken ∧ ∃ line, problem.detail =
    lineField problem.line ++ ' ' :: Text.field 20 pattern ++ ' ' :: Text.trim line

/-- A line feed in the part of a pattern that is shown is in the detail. -/
theorem Problem.Shows.mem {pattern : Text} {problem : Problem} (shows : problem.Shows pattern)
    (inside : '\n' ∈ pattern.take 20) : '\n' ∈ problem.detail := by
  obtain ⟨-, line, shape⟩ := shows
  simp [shape, mem_field_iff.mpr inside]

/-- A line feed in a detail is one of the first 20 characters of the expression that it shows. -/
theorem Rule.Finds.shows_of_mem {source : Source} (flat : source.IsFlat) {rule : Rule}
    {problem : Problem} (finds : rule.Finds source problem) (member : '\n' ∈ problem.detail) :
    ∃ patterns, rule = .forbidden patterns ∧ ∃ pattern ∈ patterns,
      problem.Shows pattern.text ∧ '\n' ∈ pattern.text.take 20 := by
  cases finds with
  | longLine => simp [not_mem_lineField, not_mem_ofNat] at member
  | functions known inFirst inSecond =>
      have symbols := flat.symbols _ known
      exact absurd member (Ordering.not_mem_pairDetail (symbols.fullNames inFirst)
        (symbols.names _ inSecond))
  | namespaces known inFirst inSecond =>
      have symbols := flat.symbols _ known
      exact absurd member (Ordering.not_mem_pairDetail (symbols.scopes _ inFirst)
        (symbols.scopes _ inSecond))
  | includes known inFirst inSecond =>
      have symbols := flat.symbols _ known
      exact absurd member (Ordering.not_mem_pairDetail (symbols.includes _ inFirst)
        (symbols.includes _ inSecond))
  | constants known inFirst inSecond =>
      have symbols := flat.symbols _ known
      exact absurd member (Ordering.not_mem_pairDetail (symbols.constants _ inFirst)
        (symbols.constants _ inSecond))
  | cramped => simp [Spacing.cramped, not_mem_lineField, not_mem_ofNat] at member
  | missing known declared =>
      have symbols := flat.symbols _ known
      simp [Documentation.missing, not_mem_lineField, symbols.fullNames declared] at member
  | undocumented known declared isParameter =>
      have symbols := flat.symbols _ known
      exact absurd member (Documentation.not_mem_parameterProblem (symbols.fullNames declared)
        (symbols.parameters _ declared _ isParameter))
  | unknown known declared inSource captured =>
      have symbols := flat.symbols _ known
      have plain : ∀ char ∈ _, char ≠ '\n' := Regex.mem_captures
        (fun char inLine same => flat.lines _ inSource (same ▸ inLine)) captured
      exact absurd member (Documentation.not_mem_parameterProblem (symbols.fullNames declared)
        fun inName => plain _ inName rfl)
  | @forbidden patterns number line pattern inSource first =>
      have plain : '\n' ∉ Text.trim line := fun inside =>
        flat.lines line inSource (Text.mem_of_mem_trim inside)
      refine ⟨patterns, rfl, pattern, List.mem_of_find?_eq_some first, ⟨rfl, line, rfl⟩, ?_⟩
      simpa [not_mem_lineField, plain, mem_field_iff] using member

end HouseStyle
