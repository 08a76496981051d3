/-
This file proves that the symbols of a file stand on different lines of the file and are listed from
the top to the bottom.
-/

import HouseStyle.Source.Extraction

namespace HouseStyle

/-- Line numbers that increase strictly, from `first` to the line before `last`. -/
structure Ascending (first last : Nat) (numbers : List Nat) : Prop where
  increasing : numbers.Pairwise (· < ·)
  bounds : ∀ number ∈ numbers, first ≤ number ∧ number < last

namespace Ascending

variable {first last number count : Nat} {numbers : List Nat}

theorem nil : Ascending first last [] :=
  ⟨List.Pairwise.nil, fun _ member => absurd member List.not_mem_nil⟩

theorem cons (lower : first ≤ number) (upper : number < last)
    (later : Ascending (number + 1) last numbers) : Ascending first last (number :: numbers) where
  increasing := List.pairwise_cons.mpr ⟨fun other member => (later.bounds other member).1,
    later.increasing⟩
  bounds := by
    intro other member
    rcases List.mem_cons.mp member with rfl | inRest
    · exact ⟨lower, upper⟩
    · have within := later.bounds other inRest
      exact ⟨by omega, within.2⟩

theorem mono {start : Nat} (lower : first ≤ start) (ascending : Ascending start last numbers) :
    Ascending first last numbers where
  increasing := ascending.increasing
  bounds := by
    intro other member
    have within := ascending.bounds other member
    exact ⟨Nat.le_trans lower within.1, within.2⟩

theorem sublist {others : List Nat} (ascending : Ascending first last numbers)
    (inside : others.Sublist numbers) : Ascending first last others where
  increasing := ascending.increasing.sublist inside
  bounds := fun other member => ascending.bounds other (inside.subset member)

/-- Nothing is found on the first of some lines. -/
theorem skip (later : Ascending (number + 1) (number + 1 + count) numbers) :
    Ascending number (number + (count + 1)) numbers := by
  rw [show number + (count + 1) = number + 1 + count by omega]
  exact later.mono (Nat.le_succ number)

/-- Something is found on the first of some lines. -/
theorem take (later : Ascending (number + 1) (number + 1 + count) numbers) :
    Ascending number (number + (count + 1)) (number :: numbers) := by
  rw [show number + (count + 1) = number + 1 + count by omega]
  exact later.cons (Nat.le_refl number) (by omega)

end Ascending

namespace Symbols

/-- The lines of functions increase strictly. -/
theorem functionsFrom_ascending (number : Nat) (lines : List Text) :
    Ascending number (number + lines.length) ((functionsFrom number lines).map Function.line) := by
  induction lines generalizing number with
  | nil => exact Ascending.nil
  | cons line lines inductionHypothesis =>
      rw [functionsFrom]
      split
      next => exact (inductionHypothesis (number + 1)).skip
      next => exact (inductionHypothesis (number + 1)).take

/-- The lines of includes increase strictly. -/
theorem includesFrom_ascending (frameworks : List Text) (number : Nat) (lines : List Text) :
    Ascending number (number + lines.length)
      ((includesFrom frameworks number lines).map Include.line) := by
  induction lines generalizing number with
  | nil => exact Ascending.nil
  | cons line lines inductionHypothesis =>
      rw [includesFrom]
      split
      next => exact (inductionHypothesis (number + 1)).skip
      next => exact (inductionHypothesis (number + 1)).take

/-- The lines of constants increase strictly. -/
theorem constantsFrom_ascending (scope : Option Text) (number : Nat) (lines : List Text) :
    Ascending number (number + lines.length)
      ((constantsFrom scope number lines).map Constant.line) := by
  induction lines generalizing scope number with
  | nil => exact Ascending.nil
  | cons line lines inductionHypothesis =>
      unfold constantsFrom
      split
      next opened _ => exact (inductionHypothesis (some opened) (number + 1)).skip
      next =>
        split
        next => exact (inductionHypothesis none (number + 1)).skip
        next =>
          split
          next => exact (inductionHypothesis _ (number + 1)).take
          next => exact (inductionHypothesis _ (number + 1)).skip

end Symbols

end HouseStyle
