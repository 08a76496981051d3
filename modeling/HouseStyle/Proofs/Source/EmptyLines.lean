/-
This file proves that empty lines in front of a file move its symbols down and that empty lines at the
end of a file do not change them.
-/

import HouseStyle.Proofs.Source.Composition

namespace HouseStyle

namespace Signature

/-- Empty lines add only spaces to a signature. -/
theorem collectFrom_empty (depth count : Nat) :
    collectFrom depth (List.replicate count []) = List.replicate count ' ' := by
  induction count with
  | zero => rfl
  | succ count inductionHypothesis =>
      have empty : Text.dropEndWhile (· == '\r') [] = [] := rfl
      rw [List.replicate_succ, collectFrom, empty, scanLine]
      simp [inductionHypothesis, List.replicate_succ]

/-- A signature that is still open after its lines gets spaces from empty lines, and they are
trimmed. -/
theorem collect_append_empty (lines : List Text) (count : Nat) :
    collect (lines ++ List.replicate count []) = collect lines := by
  rcases collectFrom_append 0 lines (List.replicate count []) with same | ⟨whole, later, extended⟩
  · rw [collect, same, collect]
  · rw [collect, extended, collectFrom_empty, collect, whole]
    apply Text.trim_append_blank
    intro char member
    rw [List.eq_of_mem_replicate member]
    rfl

end Signature

namespace Symbols

theorem functionsFrom_empty (number count : Nat) :
    functionsFrom number (List.replicate count []) = [] := by
  induction count generalizing number with
  | zero => rfl
  | succ count inductionHypothesis => exact inductionHypothesis (number + 1)

theorem includesFrom_empty (frameworks : List Text) (number count : Nat) :
    includesFrom frameworks number (List.replicate count []) = [] := by
  induction count generalizing number with
  | zero => rfl
  | succ count inductionHypothesis => exact inductionHypothesis (number + 1)

/-- Empty lines have no constants and change no scope. -/
theorem constantsFrom_empty (scope : Option Text) (number count : Nat) :
    constantsFrom scope number (List.replicate count []) = [] := by
  induction count generalizing number with
  | zero => rfl
  | succ count inductionHypothesis =>
      have noConstant : Constant.onLine? scope number [] = none := by cases scope <;> rfl
      rw [List.replicate_succ, constantsFrom_cons, noConstant]
      exact inductionHypothesis (number + 1)

/-- An empty line neither opens nor closes a namespace. -/
theorem foldl_scopeAfter_empty (scope : Option Text) (count : Nat) :
    (List.replicate count []).foldl Constant.scopeAfter scope = scope := by
  induction count with
  | zero => rfl
  | succ count inductionHypothesis => exact inductionHypothesis

/-- Empty lines above move all symbols down. -/
theorem ofLines_empty_append (frameworks : List Text) (count : Nat) (lines : List Text) :
    ofLines frameworks (List.replicate count [] ++ lines) = (ofLines frameworks lines).shift count := by
  have closes : ∀ function ∈ functionsFrom 1 (List.replicate count []),
      Signature.ClosesWithin ((List.replicate count []).drop (function.line - 1)) := by
    simp [functionsFrom_empty]
  have functions := functionsFrom_append closes lines
  have includes := includesFrom_append frameworks 1 (List.replicate count []) lines
  have constants := constantsFrom_append none 1 (List.replicate count []) lines
  rw [functionsFrom_empty, List.length_replicate, functionsFrom_shift] at functions
  rw [includesFrom_empty, List.length_replicate, includesFrom_shift] at includes
  rw [constantsFrom_empty, foldl_scopeAfter_empty, List.length_replicate, constantsFrom_shift]
    at constants
  rw [ofLines, functions, includes, constants]
  rfl

/-- Empty lines below end no open signature. -/
theorem functionsFrom_append_empty (number count : Nat) (lines : List Text) :
    functionsFrom number (lines ++ List.replicate count []) = functionsFrom number lines := by
  induction lines generalizing number with
  | nil => exact functionsFrom_empty number count
  | cons line lines inductionHypothesis =>
      have same := Signature.collect_append_empty (line :: lines) count
      rw [List.cons_append] at same
      rw [List.cons_append, functionsFrom, functionsFrom, same, inductionHypothesis]

/-- Empty lines below change no symbols. -/
theorem ofLines_append_empty (frameworks : List Text) (count : Nat) (lines : List Text) :
    ofLines frameworks (lines ++ List.replicate count []) = ofLines frameworks lines := by
  rw [ofLines, functionsFrom_append_empty, includesFrom_append, includesFrom_empty,
    constantsFrom_append, constantsFrom_empty, List.append_nil, List.append_nil]
  rfl

end Symbols

end HouseStyle
