/-
This file proves that the comparison of neighbouring runs finds every function that stands among the
functions of another scope.
-/

import Mathlib.Data.List.Pairwise
import HouseStyle.Proofs.Rule.Ordering
import HouseStyle.Proofs.Rule.Sequence

namespace HouseStyle

section Neighbours

variable {value : Type}

/-- Two values are neighbours if they stand side by side. -/
theorem mem_neighbours_iff {values : List value} {first second : value} :
    (first, second) ∈ neighbours values ↔ [first, second] <:+: values := by
  induction values with
  | nil => simp [neighbours]
  | cons front others inductionHypothesis =>
      cases others with
      | nil => simp [neighbours, List.infix_cons_iff]
      | cons next rest =>
          have split : [first, second] <:+: front :: next :: rest ↔
              [first, second] <+: front :: next :: rest ∨ [first, second] <:+: next :: rest :=
            List.infix_cons_iff
          rw [neighbours, List.mem_cons, inductionHypothesis, split]
          simp [List.cons_prefix_cons]

/-- Neighbours in a part of a list are neighbours in the list. -/
theorem mem_neighbours_of_part {part values : List value} (inside : part <:+: values)
    {pair : value × value} (member : pair ∈ neighbours part) : pair ∈ neighbours values :=
  mem_neighbours_iff.mpr ((mem_neighbours_iff.mp member).trans inside)

/-- The second one of two neighbours is not the first value of the list. -/
theorem snd_mem_of_mem_neighbours {front : value} {others : List value} {pair : value × value}
    (member : pair ∈ neighbours (front :: others)) : pair.2 ∈ others := by
  cases others with
  | nil => exact absurd member List.not_mem_nil
  | cons second rest =>
      rcases List.mem_cons.mp member with rfl | later
      · exact List.mem_cons_self
      · exact (mem_of_mem_neighbours later).2

end Neighbours

namespace Text

theorem lowerChar_ne_nil (before : Text) (char : Char) (after : Text) :
    lowerChar before char after ≠ [] := by
  rw [lowerChar]
  repeat' split
  all_goals exact List.cons_ne_nil _ _

theorem lowercase_eq_nil_iff {text : Text} : lowercase text = [] ↔ text = [] := by
  cases text with
  | nil => simp [lowercase, lowerFrom]
  | cons char rest => simp [lowercase, lowerFrom, lowerChar_ne_nil]

end Text

namespace Ordering

/-- The functions of the first scope may stand above the functions of the second scope. Free
functions, which have the empty scope, stand at the end. -/
def ScopeBefore (first second : Text) : Prop :=
  first ≠ [] ∧ (second = [] ∨ Text.lowercase first < Text.lowercase second)

/-- The first function may stand somewhere above the second one, as far as their scopes are
concerned. -/
def KeepsScopes (first second : Function) : Prop :=
  first.scope ≠ second.scope → ScopeBefore first.scope second.scope

/-- The functions of each scope stand together, free functions stand at the end, and no two scopes
differ in case only. -/
structure IsGrouped (functions : List Function) : Prop where
  together : ∀ above first between last below,
    functions = above ++ first :: (between ++ last :: below) → first.scope = last.scope →
      ∀ function ∈ between, function.scope = first.scope
  freeLast : functions.Pairwise fun first second => first.scope = [] → second.scope = []
  apart : ∀ first ∈ functions, ∀ second ∈ functions,
    Text.lowercase first.scope = Text.lowercase second.scope → first.scope = second.scope

/-- The order of scopes is transitive. -/
theorem ScopeBefore.trans {first second third : Text} (above : ScopeBefore first second)
    (below : ScopeBefore second third) : ScopeBefore first third := by
  refine ⟨above.1, below.2.imp_right fun less => ?_⟩
  exact Std.lt_trans (above.2.resolve_left below.1) less

/-- Of two scopes not both come before the other. -/
theorem ScopeBefore.asymm {first second : Text} (above : ScopeBefore first second) :
    ¬ ScopeBefore second first := fun below =>
  (above.trans below).2.elim above.1 (Std.lt_irrefl)

/-- Scopes that differ are ordered if and only if the first one comes before the second one. -/
theorem namesOrdered_iff {first second : Text} (different : first ≠ second) :
    namesOrdered first second = true ↔ ScopeBefore first second := by
  cases first with
  | nil => simp [namesOrdered, ScopeBefore, different.symm]
  | cons char rest => simp [namesOrdered, ScopeBefore, Text.caselessBefore]

variable {first second third : Function} {functions : List Function}

/-- Functions that keep the order of scopes do so across others. -/
theorem KeepsScopes.trans (above : KeepsScopes first second) (below : KeepsScopes second third) :
    KeepsScopes first third := by
  intro different
  by_cases same : first.scope = second.scope
  · rw [same] at different ⊢
    exact below different
  by_cases alsoSame : second.scope = third.scope
  · rw [← alsoSame]
    exact above same
  · exact (above same).trans (below alsoSame)

/-- No function of another scope may stand between two functions of one scope. -/
theorem KeepsScopes.eq_of_between (above : KeepsScopes first second)
    (below : KeepsScopes second third) (same : first.scope = third.scope) :
    second.scope = first.scope := by
  refine Decidable.byContradiction fun different => ?_
  have before := above (Ne.symm different)
  have after := below (same ▸ different)
  exact before.asymm (same ▸ after)

/-- The scopes of the starters are the scopes of the functions, without repetitions in a row. So
they are in order if each function that does not have the scope of the function before it has a
scope that comes after. -/
theorem forall_neighbours_startersAfter (scope : Text) (functions : List Function) :
    (∀ pair ∈ neighbours (scope :: (startersAfter (some scope) functions).map Function.scope),
        namesOrdered pair.1 pair.2 = true) ↔
      ∀ pair ∈ neighbours (scope :: functions.map Function.scope),
        pair.1 ≠ pair.2 → ScopeBefore pair.1 pair.2 := by
  induction functions generalizing scope with
  | nil => simp [startersAfter, neighbours]
  | cons function functions inductionHypothesis =>
      rw [startersAfter, List.map_cons, neighbours, List.forall_mem_cons, ← inductionHypothesis]
      by_cases same : scope = function.scope
      · simp [same]
      · have opens : (some scope == some function.scope) = false := by simp [same]
        rw [opens, if_neg Bool.false_ne_true, List.map_cons, neighbours, List.forall_mem_cons]
        simp [same, namesOrdered_iff same]

/-- Nothing is found if and only if each function may stand above all functions below it. -/
theorem unorderedNamespaces_eq_nil_iff {functions : List Function} :
    unorderedNamespaces functions = [] ↔ functions.Pairwise KeepsScopes := by
  have onScopes (values : List Function) (relation : Text → Text → Prop) :
      (∀ pair ∈ neighbours values, relation pair.1.scope pair.2.scope) ↔
        ∀ pair ∈ neighbours (values.map Function.scope), relation pair.1 pair.2 := by
    rw [neighbours_map, List.forall_mem_map]
    rfl
  have found : unorderedNamespaces functions = [] ↔
      ∀ pair ∈ neighbours (starters functions), namesOrdered pair.1.scope pair.2.scope = true := by
    simp [unorderedNamespaces, List.filter_eq_nil_iff]
  rw [found, onScopes (starters functions) fun first second => namesOrdered first second = true,
    pairwise_iff_neighbours (@KeepsScopes.trans)]
  simp only [KeepsScopes]
  rw [onScopes functions fun first second => first ≠ second → ScopeBefore first second]
  cases functions with
  | nil => simp [starters, startersAfter, neighbours]
  | cons function functions => exact forall_neighbours_startersAfter function.scope functions

/-- A list without a finding is grouped. -/
theorem isGrouped_of_pairwise (keeps : functions.Pairwise KeepsScopes) : IsGrouped functions where
  together := by
    rintro above first between last below rfl same function member
    have fromFirst := (List.pairwise_append.mp keeps).2.1
    obtain ⟨overOthers, fromSecond⟩ := List.pairwise_cons.mp fromFirst
    have overLast := (List.pairwise_append.mp fromSecond).2.2 function member last
      List.mem_cons_self
    exact (overOthers function (List.mem_append_left _ member)).eq_of_between overLast same
  freeLast := by
    refine keeps.imp fun {first second} may free => ?_
    refine Decidable.byContradiction fun filled => ?_
    exact (may fun same => filled (same ▸ free)).1 free
  apart := by
    have eitherWay : Std.Symm fun first second : Function =>
        Text.lowercase first.scope = Text.lowercase second.scope → first.scope = second.scope :=
      ⟨fun _ _ same alike => (same alike.symm).symm⟩
    have distinct : functions.Pairwise fun first second =>
        Text.lowercase first.scope = Text.lowercase second.scope → first.scope = second.scope := by
      refine keeps.imp fun {first second} may alike => ?_
      refine Decidable.byContradiction fun different => ?_
      obtain ⟨filled, free | less⟩ := may different
      · rw [free, Text.lowercase_eq_nil_iff.mpr rfl, Text.lowercase_eq_nil_iff] at alike
        exact filled alike
      · rw [alike] at less
        exact Std.lt_irrefl less
    exact distinct.forall_of_forall fun _ _ _ => rfl

/-- A function has the scope of the last starter above it or is a starter itself. What follows it
depends on this scope only. -/
theorem exists_starter (front : Function) (above : List Function) (function : Function)
    (below : List Function) :
    ∃ starter : Function, starter.scope = function.scope ∧
      starter :: startersAfter (some starter.scope) below <:+
        front :: startersAfter (some front.scope) (above ++ function :: below) := by
  induction above generalizing front with
  | nil =>
      rw [List.nil_append, startersAfter]
      split
      next same =>
        exact ⟨front, Option.some.inj (beq_iff_eq.mp same), List.suffix_rfl⟩
      next => exact ⟨function, rfl, List.suffix_cons _ _⟩
  | cons next above inductionHypothesis =>
      rw [List.cons_append, startersAfter]
      split
      next => exact inductionHypothesis front
      next =>
        obtain ⟨starter, sameScope, inside⟩ := inductionHypothesis next
        exact ⟨starter, sameScope, inside.trans (List.suffix_cons _ _)⟩

/-- More functions below add scopes at the end. -/
theorem startersAfter_prefix (scope : Option Text) (above below : List Function) :
    startersAfter scope above <+: startersAfter scope (above ++ below) := by
  induction above generalizing scope with
  | nil => exact List.nil_prefix
  | cons function above inductionHypothesis =>
      rw [List.cons_append, startersAfter, startersAfter]
      split
      next => exact inductionHypothesis scope
      next => exact List.cons_prefix_cons.mpr ⟨rfl, inductionHypothesis _⟩

/-- The starters from the first function of a part on, up to the end of this part, stand in a row
among all starters. -/
theorem exists_starters_part (above : List Function) (function : Function)
    (inside below : List Function) :
    ∃ starter : Function, starter.scope = function.scope ∧
      starters (starter :: inside) <:+: starters (above ++ function :: (inside ++ below)) := by
  have fromStarter (starter : Function) :
      starters (starter :: inside) <+: starter :: startersAfter (some starter.scope) (inside ++ below) :=
    List.cons_prefix_cons.mpr ⟨rfl, startersAfter_prefix _ inside below⟩
  cases above with
  | nil => exact ⟨function, rfl, (fromStarter function).isInfix⟩
  | cons front above =>
      obtain ⟨starter, same, later⟩ := exists_starter front above function (inside ++ below)
      exact ⟨starter, same, (fromStarter starter).isInfix.trans later.isInfix⟩

/-- A scope that is left and opened again is reported at a function below the one that opened it
first, and not below the one that opens it again. -/
theorem exists_unordered_of_reopened {above between below : List Function} {first last : Function}
    (reopened : first.scope = last.scope)
    (left : ∃ function ∈ between, function.scope ≠ first.scope) :
    ∃ pair ∈ unorderedNamespaces (above ++ first :: (between ++ last :: below)),
      pair.2 ∈ between ++ [last] := by
  obtain ⟨function, member, different⟩ := left
  obtain ⟨starter, sameScope, inside⟩ := exists_starters_part above first (between ++ [last]) below
  have found : unorderedNamespaces (starter :: (between ++ [last])) ≠ [] := by
    intro none
    have grouped := isGrouped_of_pairwise (unorderedNamespaces_eq_nil_iff.mp none)
    exact different ((grouped.together [] starter between last [] rfl
      (sameScope.trans reopened) function member).trans sameScope)
  obtain ⟨pair, isFound⟩ := List.exists_mem_of_ne_nil _ found
  obtain ⟨inPart, unordered⟩ := List.mem_filter.mp isFound
  rw [show between ++ last :: below = between ++ [last] ++ below by simp]
  refine ⟨pair, List.mem_filter.mpr ⟨mem_neighbours_of_part inside inPart, unordered⟩, ?_⟩
  exact (startersAfter_sublist _ _).subset (snd_mem_of_mem_neighbours inPart)

/-- There is no finding if and only if of each two functions the upper one has the same scope, or a
scope that comes before. A list without a finding is grouped, and each scope that is opened again is
reported between its two runs or at the second one. -/
theorem unorderedNamespaces_complete (functions : List Function) :
    (unorderedNamespaces functions = [] ↔
      functions.Pairwise fun first second => first.scope ≠ second.scope →
        first.scope ≠ [] ∧ (second.scope = [] ∨
          Text.lowercase first.scope < Text.lowercase second.scope)) ∧
    (unorderedNamespaces functions = [] → IsGrouped functions) ∧
    ∀ above first between last below,
      functions = above ++ first :: (between ++ last :: below) → first.scope = last.scope →
        (∃ function ∈ between, function.scope ≠ first.scope) →
          ∃ pair ∈ unorderedNamespaces functions, pair.2 ∈ between ++ [last] := by
  refine ⟨unorderedNamespaces_eq_nil_iff,
    fun none => isGrouped_of_pairwise (unorderedNamespaces_eq_nil_iff.mp none), ?_⟩
  rintro above first between last below rfl reopened left
  exact exists_unordered_of_reopened reopened left

/-- A list in order, in which only the case of the scopes is mixed, and one that returns to its first
scope. -/
theorem unorderedNamespaces_complete_reopened :
    let function (scope : Text) (line : Nat) : Function :=
      { scope, name := ['f'], line, parameters := [] }
    let sorted := [function "leader".toList 1, function "leader".toList 3, function "Mob".toList 5,
      function "pikmin::Nest".toList 7, function [] 9]
    let first := function "A".toList 1
    let other := function "B".toList 3
    let last := function "A".toList 5
    IsGrouped sorted ∧
      ∃ pair ∈ unorderedNamespaces [first, other, last], pair.2 ∈ [other, last] := by
  intro function sorted first other last
  have grouped := (unorderedNamespaces_complete sorted).2.1
  have reported := (unorderedNamespaces_complete [first, other, last]).2.2
  exact ⟨grouped (by decide), reported [] first [other] last [] rfl rfl ⟨other, by decide⟩⟩

end Ordering

end HouseStyle
