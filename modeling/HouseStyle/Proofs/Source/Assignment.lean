/-
This file proves when a line that assigns a value is taken for the declaration of a function.
-/

import HouseStyle.Proofs.Source.QualifiedCall
import HouseStyle.Proofs.Source.WellFormed
import HouseStyle.Proofs.Text.Identifier

namespace HouseStyle.Definition

/-- The text in front of a parenthesis assigns a value: it has an equals sign, and it is not the
head of an operator. -/
def IsAssignment (head : Text) : Prop :=
  '=' ∈ head ∧ ¬ Text.HasWord "operator".toList head

instance (head : Text) : Decidable (IsAssignment head) :=
  inferInstanceAs (Decidable (_ ∧ _))

/-- The text starts at the first column with neither a directive nor a comment. -/
def StartsPlain (text : Text) : Prop :=
  ∃ first ∈ text.head?, Text.isBlankChar first = false ∧ first ≠ '#' ∧ first ≠ '/'

/-- An equals sign is passed over if the letters of `operator` stand somewhere beside it, also
inside a longer name. -/
theorem isCandidate_iff_of_sign {head : Text} (plain : '(' ∉ head) (sign : '=' ∈ head)
    (tail : Text) :
    isCandidate (head ++ '(' :: tail) = true ↔ StartsPlain head ∧ "operator".toList <:+: head := by
  have same := head_append plain tail
  cases head with
  | nil => exact absurd sign List.not_mem_nil
  | cons first rest =>
      rw [List.cons_append] at same
      rw [List.cons_append, isCandidate, same]
      simp [StartsPlain, sign, Text.occurs_iff, and_assoc]

/-- The parenthesis of a call of a qualified name makes a declaration out of every candidate. -/
theorem exists_ofLine?_eq_some {head : Text} (plain : '(' ∉ head) (noLineFeed : '\n' ∉ head)
    (candidate : isCandidate (head ++ ['(']) = true) :
    ∃ tail parts, ofLine? (head ++ '(' :: tail) = some parts := by
  have call : splitScope? ('(' :: dropStandardScope "A::f(".toList) = some ("(A".toList, ['f']) := by
    decide
  have declared := ofLine?_append_call plain noLineFeed candidate call
  rw [if_neg (by decide)] at declared
  exact ⟨_, _, declared⟩

end HouseStyle.Definition

namespace HouseStyle.Symbols

open Definition

/-- A line that begins with an assignment has no function, whatever stands behind the parenthesis and
whatever the other lines are, unless the assignment starts like a definition and has the letters of
`operator` inside a longer name. With these letters the parenthesis can be followed by a text that
makes a function of the line, whatever the other lines are. -/
theorem assignment_recorded_beside_operator {head : Text} (plain : '(' ∉ head)
    (assigns : IsAssignment head) :
    (¬ (StartsPlain head ∧ "operator".toList <:+: head) →
      ∀ frameworks lines, ∀ function ∈ (ofLines frameworks lines).functions, ∀ tail,
        lines[function.line - 1]? ≠ some (head ++ '(' :: tail)) ∧
    ('\n' ∉ head → StartsPlain head ∧ "operator".toList <:+: head →
      ∃ tail, ∀ frameworks above below,
        ∃ function ∈ (ofLines frameworks (above ++ (head ++ '(' :: tail) :: below)).functions,
          function.line = above.length + 1) := by
  constructor
  · intro passed frameworks lines function member tail isLine
    obtain ⟨index, line, found, sum, declared, -⟩ := exists_line_of_mem_functionsFrom member
    rw [sum, Nat.add_sub_cancel_left, found] at isLine
    obtain rfl := Option.some.inj isLine
    exact passed ((isCandidate_iff_of_sign plain assigns.1 tail).mp (ofLine?_eq_some declared).1)
  · intro noLineFeed starts
    have candidate := (isCandidate_iff_of_sign plain assigns.1 []).mpr starts
    obtain ⟨tail, ⟨scope, name⟩, declared⟩ := exists_ofLine?_eq_some plain noLineFeed candidate
    refine ⟨tail, fun frameworks above below => ?_⟩
    let function : Function :=
      { scope, name, line := 1 + above.length
        parameters := Signature.parameters (Signature.collect ((head ++ '(' :: tail) :: below)) }
    have here : function ∈ functionsFrom (1 + above.length) ((head ++ '(' :: tail) :: below) := by
      rw [functionsFrom, declared]
      exact List.mem_cons_self
    exact ⟨function, mem_functionsFrom_append above here, Nat.add_comm 1 above.length⟩

/-- A type that begins with a capital letter does not have these letters. -/
theorem assignment_recorded_beside_operator_capital :
    let head := "Operator& chosen = choose".toList
    '(' ∉ head ∧ IsAssignment head ∧ ¬ (StartsPlain head ∧ "operator".toList <:+: head) ∧
      ∀ frameworks lines, ∀ function ∈ (ofLines frameworks lines).functions, ∀ tail,
        lines[function.line - 1]? ≠ some (head ++ '(' :: tail) := by
  intro head
  have plain : '(' ∉ head := by decide
  have assigns : IsAssignment head := by decide
  have passed : ¬ (StartsPlain head ∧ "operator".toList <:+: head) := by
    rintro ⟨-, inside⟩
    exact absurd (Text.occurs_iff.mpr inside) (by decide)
  exact ⟨plain, assigns, passed, (assignment_recorded_beside_operator plain assigns).1 passed⟩

/-- A variable whose name ends with these letters is taken for an operator. -/
theorem not_assignment_unrecorded :
    ¬ ∀ frameworks lines, ∀ function ∈ (ofLines frameworks lines).functions, ∀ line,
      lines[function.line - 1]? = some line → ¬ IsAssignment (head line) := by
  intro unrecorded
  have recorded : (ofLines [] ["int cooperator = compute(3);".toList]).functions =
      [{ scope := [], name := "compute".toList, line := 1, parameters := [] }] := by
    decide
  exact unrecorded [] _ _ (recorded ▸ List.mem_singleton_self _) _ rfl (by decide)

end HouseStyle.Symbols
