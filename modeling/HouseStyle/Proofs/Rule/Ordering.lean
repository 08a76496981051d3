/-
This file proves that the functions of a class are sorted as a whole if no two neighbours are in the
wrong order.
-/

import HouseStyle.Rule.Ordering

namespace HouseStyle

section Neighbours

variable {value : Type}

theorem mem_of_mem_neighbours {values : List value} {pair : value × value}
    (member : pair ∈ neighbours values) : pair.1 ∈ values ∧ pair.2 ∈ values := by
  induction values with
  | nil => exact absurd member List.not_mem_nil
  | cons first others inductionHypothesis =>
      cases others with
      | nil => exact absurd member List.not_mem_nil
      | cons second rest =>
          rcases List.mem_cons.mp member with rfl | later
          · exact ⟨List.mem_cons_self, List.mem_cons_of_mem _ List.mem_cons_self⟩
          · have inOthers := inductionHypothesis later
            exact ⟨List.mem_cons_of_mem _ inOthers.1, List.mem_cons_of_mem _ inOthers.2⟩

/-- A transitive relation holds between all values of a list if it holds between neighbours. -/
theorem pairwise_iff_neighbours {relation : value → value → Prop}
    (transitive : ∀ first second third,
      relation first second → relation second third → relation first third)
    (values : List value) :
    values.Pairwise relation ↔ ∀ pair ∈ neighbours values, relation pair.1 pair.2 := by
  induction values with
  | nil => simp [neighbours]
  | cons first others inductionHypothesis =>
      cases others with
      | nil => simp [neighbours]
      | cons second rest =>
          rw [List.pairwise_cons, neighbours, List.forall_mem_cons (l := neighbours _),
            ← inductionHypothesis]
          refine and_congr_left fun later => ?_
          constructor
          · intro above
            exact above second List.mem_cons_self
          · intro here value member
            rcases List.mem_cons.mp member with rfl | inRest
            · exact here
            · exact transitive _ _ _ here ((List.pairwise_cons.mp later).1 value inRest)

end Neighbours

namespace Ordering

/-- Neither function is a constructor or destructor on the wrong side of the other one. -/
def InPlace (constructors : SpecialPlacement) (first second : Function) : Prop :=
  match constructors with
  | .last => ¬ (first.isSpecial = true ∧ second.isSpecial = false)
  | .first => ¬ (first.isSpecial = false ∧ second.isSpecial = true)

/-- Two functions that are no constructors or destructors are overloads of one name, or the name of
the first one comes strictly before. -/
def ByName (first second : Function) : Prop :=
  first.isSpecial = false → second.isSpecial = false →
    first.orderingName = second.orderingName ∨
      Text.lowercase first.orderingName < Text.lowercase second.orderingName

/-- The first function may stand somewhere above the second one. -/
structure MayPrecede (constructors : SpecialPlacement) (first second : Function) : Prop where
  inPlace : InPlace constructors first second
  byName : ByName first second

variable {constructors : SpecialPlacement} {first second third : Function}

/-- The places of special functions are transitive. -/
theorem InPlace.trans (above : InPlace constructors first second)
    (below : InPlace constructors second third) : InPlace constructors first third := by
  cases constructors with
  | first =>
      rintro ⟨regular, special⟩
      cases between : second.isSpecial with
      | true => exact above ⟨regular, between⟩
      | false => exact below ⟨between, special⟩
  | last =>
      rintro ⟨special, regular⟩
      cases between : second.isSpecial with
      | true => exact below ⟨between, regular⟩
      | false => exact above ⟨special, between⟩

/-- A special function between two regular ones is out of its place on one side. -/
theorem InPlace.isSpecial_between (above : InPlace constructors first second)
    (below : InPlace constructors second third) (regular : first.isSpecial = false)
    (alsoRegular : third.isSpecial = false) : second.isSpecial = false := by
  apply Bool.eq_false_iff.mpr
  intro special
  cases constructors with
  | first => exact above ⟨regular, special⟩
  | last => exact below ⟨special, alsoRegular⟩

/-- The order of functions is transitive, also across special functions. -/
theorem MayPrecede.trans (above : MayPrecede constructors first second)
    (below : MayPrecede constructors second third) : MayPrecede constructors first third where
  inPlace := above.inPlace.trans below.inPlace
  byName := by
    intro regular alsoRegular
    -- A special function would be compared with neither name, but it cannot stand here.
    have between := above.inPlace.isSpecial_between below.inPlace regular alsoRegular
    rcases above.byName regular between with same | less
    · rw [same]
      exact below.byName between alsoRegular
    · right
      rcases below.byName between alsoRegular with same | alsoLess
      · rwa [← same]
      · exact Std.lt_trans less alsoLess

/-- Overloads are not compared, so the order is right if and only if the first function may stand
above the second one, provided that overloads do not differ in whether they are special. -/
theorem mayPrecede_iff
    (overloads : first.orderingName = second.orderingName → first.isSpecial = second.isSpecial) :
    MayPrecede constructors first second ↔ first.orderingName = second.orderingName ∨
      functionsOrdered constructors first second = true := by
  have parts : MayPrecede constructors first second ↔
      InPlace constructors first second ∧ ByName first second :=
    ⟨fun may => ⟨may.inPlace, may.byName⟩, fun ⟨inPlace, byName⟩ => ⟨inPlace, byName⟩⟩
  rw [parts, functionsOrdered]
  -- If only one of the functions is special, they are no overloads and are therefore compared.
  cases one : first.isSpecial <;> cases two : second.isSpecial
  case false.false => cases constructors <;> simp [InPlace, ByName, one, two, Text.caselessBefore]
  case true.true => cases constructors <;> simp [InPlace, ByName, one, two]
  case false.true =>
    have different : first.orderingName ≠ second.orderingName := by simpa [one, two] using overloads
    cases constructors <;> simp [InPlace, ByName, one, two, different]
  case true.false =>
    have different : first.orderingName ≠ second.orderingName := by simpa [one, two] using overloads
    cases constructors <;> simp [InPlace, ByName, one, two, different]

variable {config : OrderingConfig}

theorem isException_eq_false_iff {function : Function} :
    isException config function = false ↔ function.name ∉ config.exceptions := by
  rw [isException, List.any_eq_false]
  constructor
  · intro different member
    exact different function.name member (beq_self_eq_true _)
  · intro absent name member same
    exact absent (beq_iff_eq.mp same ▸ member)

/-- Two functions of a scope are in order if they have the same name for the order or may stand so.
-/
theorem areUnordered_eq_false_iff (sameScope : first.scope = second.scope)
    (plain : first.name ∉ config.exceptions) (alsoPlain : second.name ∉ config.exceptions) :
    areUnordered config first second = false ↔ first.orderingName = second.orderingName ∨
      functionsOrdered config.constructors first second = true := by
  simp [areUnordered, sameScope, isException_eq_false_iff.mpr plain,
    isException_eq_false_iff.mpr alsoPlain, Decidable.or_iff_not_imp_left]

/-- In a class without exceptions, no neighbours are in the wrong order if and only if each function
may stand above all functions below it. -/
theorem unorderedFunctions_eq_nil_iff {functions : List Function}
    (oneScope : ∀ first ∈ functions, ∀ second ∈ functions, first.scope = second.scope)
    (plain : ∀ function ∈ functions, function.name ∉ config.exceptions)
    (overloads : ∀ first ∈ functions, ∀ second ∈ functions,
      first.orderingName = second.orderingName → first.isSpecial = second.isSpecial) :
    unorderedFunctions config functions = [] ↔
      functions.Pairwise (MayPrecede config.constructors) := by
  have sorted := pairwise_iff_neighbours (@MayPrecede.trans config.constructors) functions
  rw [unorderedFunctions, List.filter_eq_nil_iff, sorted]
  refine forall₂_congr fun pair member => ?_
  obtain ⟨first, second⟩ := pair
  obtain ⟨inFirst, inSecond⟩ := mem_of_mem_neighbours member
  rw [Bool.not_eq_true,
    areUnordered_eq_false_iff (oneScope _ inFirst _ inSecond) (plain _ inFirst) (plain _ inSecond),
    mayPrecede_iff (overloads _ inFirst _ inSecond)]

/-- Names that differ in case, two operators and the special functions at the end. With the special
functions expected at the beginning, the list is not sorted. -/
theorem unorderedFunctions_eq_nil_iff_ship :
    let function (name : Text) (line : Nat) : Function :=
      { scope := "Ship".toList, name, line, parameters := [] }
    let functions := [function "alpha".toList 1, function "Beta".toList 3,
      function "operator+".toList 5, function "operator-".toList 7, function "zeta".toList 9,
      function "Ship".toList 11, function "~Ship".toList 13]
    (∀ first ∈ functions, ∀ second ∈ functions, first.scope = second.scope) ∧
    (∀ function ∈ functions, function.name ∉ ["create_fsm".toList]) ∧
    (∀ first ∈ functions, ∀ second ∈ functions,
      first.orderingName = second.orderingName → first.isSpecial = second.isSpecial) ∧
    functions.Pairwise (MayPrecede .last) ∧ ¬ functions.Pairwise (MayPrecede .first) := by
  intro function functions
  have oneScope : ∀ first ∈ functions, ∀ second ∈ functions, first.scope = second.scope := by decide
  have plain : ∀ function ∈ functions, function.name ∉ ["create_fsm".toList] := by decide
  have overloads : ∀ first ∈ functions, ∀ second ∈ functions,
      first.orderingName = second.orderingName → first.isSpecial = second.isSpecial := by decide
  have sorted := @unorderedFunctions_eq_nil_iff {} functions oneScope plain overloads
  have unsorted :=
    @unorderedFunctions_eq_nil_iff { constructors := .first } functions oneScope plain overloads
  exact ⟨oneScope, plain, overloads, sorted.mp (by decide), mt unsorted.mpr (by decide)⟩

end Ordering

end HouseStyle
