/-
This file proves that paths are compared by their components. The order of paths is the order of
their components, and it is a strict order.
-/

import HouseStyle.Path.Basic

namespace HouseStyle.Path

/-- The root comes before a dot, a dot before two dots, and two dots before all names. -/
def Component.rank : Component → Nat
  | root => 0
  | here => 1
  | up => 2
  | named _ => 3

/-- Names are ordered by their characters, all other components by their ranks. -/
def Component.Precedes : Component → Component → Prop
  | named first, named second => first < second
  | first, second => first.rank < second.rank

/-- Components with the same key are the same. -/
theorem Component.key_inj {first second : Component} :
    first.key = second.key ↔ first = second := by
  cases first <;> cases second <;> simp [key]

/-- The order of components is that of their keys. -/
theorem Component.key_lt_key_iff {first second : Component} :
    first.key < second.key ↔ first.Precedes second := by
  cases first <;> cases second <;>
    simp [key, Precedes, rank, List.cons_lt_cons_iff]

/-- Lists of components with the same keys are the same. -/
theorem map_key_inj {first second : List Component} :
    first.map Component.key = second.map Component.key ↔ first = second :=
  List.map_inj_right fun _ _ => Component.key_inj.mp

/-- Paths are the same if their keys are. -/
theorem same_iff_key {first second : Path} : same first second = true ↔ key first = key second := by
  rw [same, beq_iff_eq]

/-- Paths are the same if and only if they have the same components. -/
theorem same_iff {first second : Path} :
    same first second = true ↔ components first = components second := by
  rw [same_iff_key, key, key, map_key_inj]

/-- The order of lists of components is the lexicographic one. -/
theorem map_key_lt_iff (first second : List Component) :
    first.map Component.key < second.map Component.key ↔
      List.Lex Component.Precedes first second := by
  induction first generalizing second with
  | nil => cases second <;> simp
  | cons component first inductionHypothesis =>
      cases second with
      | nil => simp
      | cons other second =>
          rw [List.map_cons, List.map_cons, List.cons_lt_cons_iff, List.cons_lex_cons_iff,
            Component.key_lt_key_iff, Component.key_inj, inductionHypothesis]

/-- Paths are ordered component by component. -/
theorem before_iff {first second : Path} :
    before first second = true ↔
      List.Lex Component.Precedes (components first) (components second) := by
  rw [before, decide_eq_true_iff, key, key, map_key_lt_iff]

/-- The order of paths is that of their keys. -/
theorem before_iff_key {first second : Path} :
    before first second = true ↔ key first < key second := by
  rw [before, decide_eq_true_iff]

theorem not_before_self (path : Path) : ¬ before path path = true := by
  rw [before_iff_key]
  exact Std.lt_irrefl

theorem not_same_of_before {first second : Path} (order : before first second = true) :
    same first second = false := by
  apply Bool.eq_false_iff.mpr
  intro equal
  rw [before_iff_key, same_iff_key.mp equal] at order
  exact Std.lt_irrefl order

/-- The order of paths is transitive. -/
theorem before_trans {first second third : Path} (lower : before first second = true)
    (upper : before second third = true) : before first third = true := by
  rw [before_iff_key] at *
  exact Std.lt_trans lower upper

/-- Of two different paths one comes first. -/
theorem before_of_not {first second : Path} (different : same first second ≠ true)
    (order : before first second ≠ true) : before second first = true := by
  rw [Ne, same_iff_key] at different
  rw [Ne, before_iff_key] at order
  rw [before_iff_key]
  rcases Std.lt_trichotomy (key first) (key second) with less | equal | greater
  · exact absurd less order
  · exact absurd equal different
  · exact greater

end HouseStyle.Path
