/-
This file proves which line number a reader finds at the beginning of a detail. The number is cut
after four digits.
-/

import Mathlib.Algebra.GroupWithZero.Nat
import HouseStyle.Proofs.Linter.EmptyLines
import HouseStyle.Proofs.Rule.Finding

namespace HouseStyle

section Digits

theorem isDigit_of_mem_take {number width : Nat} {char : Char}
    (member : char ∈ (Text.ofNat number).take width) : char.isDigit = true :=
  Nat.isDigit_of_mem_toDigits (by decide) (by decide) (List.mem_of_mem_take member)

/-- Each digit multiplies the bound of a number by ten. -/
theorem ofDigitChars_lt {digits : Text} (all : ∀ char ∈ digits, char.isDigit = true) (start : Nat) :
    Nat.ofDigitChars 10 digits start < (start + 1) * 10 ^ digits.length := by
  induction digits generalizing start with
  | nil => simp
  | cons char digits inductionHypothesis =>
      obtain ⟨isDigit, later⟩ := List.forall_mem_cons.mp all
      have small : char.toNat - '0'.toNat < 10 := by
        have code := (Char.isDigit_iff_toNat.mp isDigit).2
        simp only [Char.reduceToNat] at code ⊢
        omega
      rw [Nat.ofDigitChars_cons, List.length_cons]
      calc
        Nat.ofDigitChars 10 digits (10 * start + (char.toNat - '0'.toNat)) <
            (10 * start + (char.toNat - '0'.toNat) + 1) * 10 ^ digits.length :=
          inductionHypothesis later _
        _ ≤ (start + 1) * 10 * 10 ^ digits.length := Nat.mul_le_mul_right _ (by omega)
        _ = (start + 1) * 10 ^ (digits.length + 1) := by
          rw [Nat.pow_succ, Nat.mul_assoc, Nat.mul_comm 10]

/-- The first four digits of a number are the number itself if and only if it has no more. -/
theorem ofDigitChars_take_eq_iff (number : Nat) :
    Nat.ofDigitChars 10 ((Text.ofNat number).take 4) 0 = number ↔ number < 10000 := by
  constructor
  · intro same
    have bound := @ofDigitChars_lt ((Text.ofNat number).take 4) (fun _ => isDigit_of_mem_take) 0
    have power : 10 ^ ((Text.ofNat number).take 4).length ≤ 10 ^ 4 :=
      Nat.pow_le_pow_right (by decide) (List.length_take_le 4 _)
    omega
  · intro small
    have short : (Text.ofNat number).length ≤ 4 :=
      (Nat.length_toDigits_le_iff (by decide) (by decide)).mpr small
    rw [List.take_of_length_le short]
    exact Nat.ofDigitChars_ten_toDigits

/-- The digits of a column for a line number end where the column or the number ends. -/
theorem takeWhile_lineField (line : Nat) (rest : Text) :
    (lineField line ++ ' ' :: rest).takeWhile Char.isDigit = (Text.ofNat line).take 4 := by
  have ends (count : Nat) :
      (List.replicate count ' ' ++ ' ' :: rest).takeWhile Char.isDigit = [] := by
    cases count with
    | zero => rfl
    | succ count => rfl
  rw [lineField, Text.field, List.append_assoc,
    List.takeWhile_append_of_pos fun _ => isDigit_of_mem_take, ends, List.append_nil]

end Digits

namespace Problem

/-- The digits at the beginning of the detail. -/
def leadingDigits (problem : Problem) : Text :=
  problem.detail.takeWhile Char.isDigit

/-- The number at the beginning of the detail. -/
def shownLine (problem : Problem) : Nat :=
  Nat.ofDigitChars 10 problem.leadingDigits 0

/-- The detail starts with the column for the line of the problem. -/
def StartsWithLine (problem : Problem) : Prop :=
  ∃ rest, problem.detail = lineField problem.line ++ ' ' :: rest

namespace StartsWithLine

variable {problem : Problem}

/-- The first four digits of a line number are shown. -/
theorem leadingDigits (starts : problem.StartsWithLine) :
    problem.leadingDigits = (Text.ofNat problem.line).take 4 := by
  obtain ⟨rest, shape⟩ := starts
  rw [Problem.leadingDigits, shape, takeWhile_lineField]

/-- Four digits show the whole line number if it is below 10000. -/
theorem shownLine_eq_iff (starts : problem.StartsWithLine) :
    problem.shownLine = problem.line ↔ problem.line < 10000 := by
  rw [shownLine, starts.leadingDigits]
  exact ofDigitChars_take_eq_iff problem.line

end StartsWithLine

end Problem

theorem Ordering.exists_pairDetail (firstLine firstWidth : Nat) (firstName : Text)
    (secondLine secondWidth : Nat) (secondName : Text) :
    ∃ rest, pairDetail firstLine firstWidth firstName secondLine secondWidth secondName =
      lineField firstLine ++ ' ' :: rest :=
  ⟨_, by rw [pairDetail, List.append_assoc, List.append_assoc, List.append_assoc]; rfl⟩

/-- Every problem that a rule finds starts with its line number. -/
theorem Rule.Finds.startsWithLine {source : Source} {rule : Rule} {problem : Problem}
    (finds : rule.Finds source problem) : problem.StartsWithLine := by
  cases finds with
  | longLine => exact ⟨_, by rw [List.append_assoc, List.append_assoc]; rfl⟩
  | functions | namespaces | includes | constants => exact Ordering.exists_pairDetail ..
  | cramped => exact ⟨_, by rw [Spacing.cramped]; simp only [List.append_assoc]; rfl⟩
  | missing => exact ⟨_, rfl⟩
  | undocumented | unknown | forbidden => exact ⟨_, List.append_assoc ..⟩

namespace Linter

/-- Every problem of a text starts with its line number. -/
theorem startsWithLine_of_mem_check {linter : Linter} {path : Path} {text : Text}
    {problem : Problem} (member : problem ∈ linter.check path text) : problem.StartsWithLine := by
  obtain ⟨rule, _, found, byRule, rfl⟩ := mem_check member
  exact (Rule.finds_of_mem_check byRule).startsWithLine

/-- A detail begins with the first four digits of the number of the line. They are this number if
and only if it is smaller than 10000. -/
theorem check_shownLine (linter : Linter) (path : Path) (text : Text) :
    ∀ problem ∈ linter.check path text,
      problem.leadingDigits = (Text.ofNat problem.line).take 4 ∧
        (problem.shownLine = problem.line ↔ problem.line < 10000) := by
  intro problem member
  have starts := startsWithLine_of_mem_check member
  exact ⟨starts.leadingDigits, starts.shownLine_eq_iff⟩

/-- A long line below a line without problems. -/
theorem check_shownLine_second_line :
    let linter : Linter :=
      { rules := [.lineLength 3], symbolExtensions := [], frameworks := [], unreported := [] }
    let problem : Problem :=
      { kind := .longLine, line := 2, detail := "2    (4 characters)".toList, path := "a.h".toList }
    problem ∈ linter.check "a.h".toList "one\nlong".toList ∧
      problem.leadingDigits = ['2'] ∧ problem.shownLine = 2 := by
  intro linter problem
  have member : problem ∈ linter.check "a.h".toList "one\nlong".toList := by decide
  obtain ⟨digits, shown⟩ := check_shownLine linter _ _ problem member
  exact ⟨member, digits.trans (by decide), shown.mpr (by decide)⟩

/-- The number of the line 10000 loses its last digit. -/
theorem exists_shownLine_ne :
    let linter : Linter :=
      { rules := [.lineLength 80, .ordering {}, .spacing 2, .documentation .standard]
        symbolExtensions := ["cpp".toList]
        frameworks := ["allegro".toList]
        unreported := ({} : ReportConfig).exclude }
    let text := List.replicate 9999 '\n' ++ List.replicate 81 'x'
    ofConfig {} = .ok linter ∧
      (∃ problem ∈ linter.check "a.h".toList text,
        problem.line = 10000 ∧ problem.shownLine = 1000) ∧
      ¬ ∀ problem ∈ linter.check "a.h".toList text, problem.shownLine = problem.line := by
  intro linter text
  have built : ofConfig {} = .ok linter := rfl
  have passes : ∀ rule ∈ linter.rules, rule.PassesEmptyLines := by
    obtain ⟨rules, rulesBuilt, shape⟩ := ofConfig_eq_ok_iff.mp built
    rw [shape]
    exact Rule.passesEmptyLines_of_ofConfig (Config.validate_eq_ok_iff.mp rfl) (by simp) rulesBuilt
  -- The text is too long to be checked by evaluation. Its empty lines only move the last line.
  have moved := check_lineFeeds_append passes "a.h".toList 9999 (List.replicate 81 'x')
  have marks : (linter.check "a.h".toList text).map Problem.mark = [(.longLine, 10000)] := by
    rw [moved]
    decide +kernel
  obtain ⟨problem, member, mark⟩ := List.mem_map.mp (marks ▸ List.mem_singleton_self _)
  have line : problem.line = 10000 := (Prod.mk.inj mark).2
  have starts := startsWithLine_of_mem_check member
  have shown : problem.shownLine = 1000 := by
    rw [Problem.shownLine, starts.leadingDigits, line]
    decide
  have different : problem.shownLine ≠ problem.line := by
    rw [Ne, starts.shownLine_eq_iff, line]
    decide
  exact ⟨built, ⟨problem, member, line, shown⟩, fun all => different (all problem member)⟩

end Linter

end HouseStyle
