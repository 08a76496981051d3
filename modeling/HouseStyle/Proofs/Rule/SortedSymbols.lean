/-
This file proves that comparing neighbours decides whether all includes and all constants of a file
are in order.
-/

import HouseStyle.Proofs.Rule.Scopes
import HouseStyle.Proofs.Source.WellFormed

namespace HouseStyle

/-- Two values are neighbours if their places differ by one. -/
theorem mem_neighbours_iff_getElem? {value : Type} {values : List value} {first second : value} :
    (first, second) ∈ neighbours values ↔
      ∃ index, values[index]? = some first ∧ values[index + 1]? = some second := by
  rw [mem_neighbours_iff, List.infix_iff_getElem?]
  constructor
  · rintro ⟨index, -, found⟩
    exact ⟨index, by simpa using found 0 (by simp), by simpa [Nat.add_comm] using found 1 (by simp)⟩
  · rintro ⟨index, isFirst, isSecond⟩
    have inside := (List.getElem?_eq_some_iff.mp isSecond).1
    refine ⟨index, by simp; omega, fun place below => ?_⟩
    obtain rfl | rfl : place = 0 ∨ place = 1 := by simp at below; omega
    · simpa using isFirst
    · simpa [Nat.add_comm] using isSecond

/-- Keys increase strictly if each one is smaller than the next one. -/
theorem pairwise_lt_iff_neighbours {value : Type} (key : value → Text) (values : List value) :
    values.Pairwise (fun first second => key first < key second) ↔
      ∀ pair ∈ neighbours values, key pair.1 < key pair.2 := by
  have transitive (first second third : value) :
      key first < key second → key second < key third → key first < key third := Std.lt_trans
  exact pairwise_iff_neighbours transitive values

theorem Category.rank_inj {first second : Category} :
    first.rank = second.rank ↔ first = second := by
  cases first <;> cases second <;> decide

namespace Ordering

section Includes

/-- The includes at two positions and all includes between them stand on consecutive lines and have
one category. -/
def IsBlock (includes : List Include) (first last : Nat) : Prop :=
  ∃ line category, ∀ index directive, first ≤ index → index ≤ last →
    includes[index]? = some directive →
      directive.line = line + (index - first) ∧ directive.category = category

/-- No include stands above one of an earlier category, and in each block the names increase
strictly, without regard to case. -/
structure IncludesSorted (includes : List Include) : Prop where
  categories : includes.Pairwise fun above below => above.category.rank ≤ below.category.rank
  names : ∀ first last above below, first < last → includes[first]? = some above →
    includes[last]? = some below → IsBlock includes first last →
      Text.lowercase above.target < Text.lowercase below.target

variable {includes : List Include} {above below : Include}

/-- Two includes are in order if their categories are, and, on lines next to each other in one
category, their names are. -/
theorem includesOrdered_iff :
    includesOrdered above below = true ↔ above.category.rank ≤ below.category.rank ∧
      (above.category = below.category → distance above.line below.line ≤ 1 →
        Text.lowercase above.target < Text.lowercase below.target) := by
  rw [includesOrdered, ← Category.rank_inj]
  split
  next earlier => simp; omega
  next =>
    split
    next later => simp; omega
    next =>
      split
      next apart => simp; omega
      next near =>
        have same : above.category.rank = below.category.rank := by omega
        simp [same, Text.caselessBefore, Nat.le_of_not_lt near]

/-- All includes are in order if all neighbours are. -/
theorem unorderedIncludes_eq_nil_iff :
    unorderedIncludes includes = [] ↔
      ∀ pair ∈ neighbours includes, includesOrdered pair.1 pair.2 = true := by
  simp [unorderedIncludes, List.filter_eq_nil_iff]

/-- In a block each name comes before the next one, so the first one comes before the last one. -/
theorem lowercase_lt_of_isBlock
    (ordered : ∀ pair ∈ neighbours includes, includesOrdered pair.1 pair.2 = true)
    {first count : Nat} (isAbove : includes[first]? = some above)
    (isBelow : includes[first + 1 + count]? = some below)
    (isBlock : IsBlock includes first (first + 1 + count)) :
    Text.lowercase above.target < Text.lowercase below.target := by
  obtain ⟨line, category, inBlock⟩ := isBlock
  have step {index : Nat} {upper lower : Include} (inside : first ≤ index)
      (within : index + 1 ≤ first + 1 + count) (isUpper : includes[index]? = some upper)
      (isLower : includes[index + 1]? = some lower) :
      Text.lowercase upper.target < Text.lowercase lower.target := by
    have compared := ordered _ (mem_neighbours_iff_getElem?.mpr ⟨index, isUpper, isLower⟩)
    obtain ⟨upperLine, upperCategory⟩ := inBlock index upper inside (by omega) isUpper
    obtain ⟨lowerLine, lowerCategory⟩ := inBlock (index + 1) lower (by omega) within isLower
    refine (includesOrdered_iff.mp compared).2 (upperCategory.trans lowerCategory.symm) ?_
    simp only [distance, upperLine, lowerLine]
    omega
  induction count generalizing below with
  | zero => exact step (Nat.le_refl _) (Nat.le_refl _) isAbove isBelow
  | succ count inductionHypothesis =>
      obtain ⟨inside, -⟩ := List.getElem?_eq_some_iff.mp isBelow
      have isMiddle := List.getElem?_eq_getElem (Nat.lt_of_succ_lt inside)
      have later := inductionHypothesis isMiddle
        (fun index directive lower upper => inBlock index directive lower (Nat.le_succ_of_le upper))
        fun inside within => step inside (Nat.le_succ_of_le within)
      have inBlockLast : first ≤ first + 1 + count := by omega
      exact Std.lt_trans later (step inBlockLast (Nat.le_refl _) isMiddle isBelow)

/-- On lines that increase, comparing neighbours decides whether all includes are in order. -/
theorem unorderedIncludes_eq_nil_iff_sorted
    (ascending : includes.Pairwise fun above below => above.line < below.line) :
    unorderedIncludes includes = [] ↔ IncludesSorted includes := by
  rw [unorderedIncludes_eq_nil_iff]
  constructor
  · intro ordered
    refine ⟨?_, ?_⟩
    · have transitive (first second third : Include) :
          first.category.rank ≤ second.category.rank → second.category.rank ≤ third.category.rank →
            first.category.rank ≤ third.category.rank := Nat.le_trans
      exact (pairwise_iff_neighbours transitive includes).mpr fun pair member =>
        (includesOrdered_iff.mp (ordered pair member)).1
    · intro first last above below order isAbove isBelow isBlock
      obtain ⟨count, rfl⟩ : ∃ count, last = first + 1 + count := ⟨last - (first + 1), by omega⟩
      exact lowercase_lt_of_isBlock ordered isAbove isBelow isBlock
  · rintro ⟨categories, names⟩ ⟨above, below⟩ member
    obtain ⟨index, isAbove, isBelow⟩ := mem_neighbours_iff_getElem?.mp member
    obtain ⟨inAbove, sameAbove⟩ := List.getElem?_eq_some_iff.mp isAbove
    obtain ⟨inBelow, sameBelow⟩ := List.getElem?_eq_some_iff.mp isBelow
    have lines := List.pairwise_iff_getElem.mp ascending _ _ inAbove inBelow (Nat.lt_succ_self _)
    have ranks := List.pairwise_iff_getElem.mp categories _ _ inAbove inBelow (Nat.lt_succ_self _)
    rw [sameAbove, sameBelow] at lines ranks
    refine includesOrdered_iff.mpr ⟨ranks, fun sameCategory near => ?_⟩
    refine names index (index + 1) above below (Nat.lt_succ_self _) isAbove isBelow
      ⟨above.line, above.category, fun place directive lower upper isDirective => ?_⟩
    obtain rfl | rfl : place = index ∨ place = index + 1 := by omega
    · obtain rfl := Option.some.inj (isAbove.symm.trans isDirective)
      simp
    · obtain rfl := Option.some.inj (isBelow.symm.trans isDirective)
      refine ⟨?_, sameCategory.symm⟩
      simp only [distance] at near
      omega

end Includes

section Constants

/-- A part of the constants in which all stand in one namespace, and which cannot be longer. -/
structure IsRun (constants run : List Constant) (scope : Text) : Prop where
  oneScope : ∀ constant ∈ run, constant.scope = scope
  longest : ∃ above below, constants = above ++ run ++ below ∧
    (∀ constant ∈ above.getLast?, constant.scope ≠ scope) ∧
    ∀ constant ∈ below.head?, constant.scope ≠ scope

/-- In each run the names increase strictly, without regard to case. -/
def ConstantsSorted (constants : List Constant) : Prop :=
  ∀ run scope, IsRun constants run scope →
    run.Pairwise fun above below => Text.lowercase above.name < Text.lowercase below.name

variable {constants : List Constant}

/-- Two neighbours in one namespace are neighbours in a run. -/
theorem exists_run_of_mem_neighbours {above below : Constant}
    (member : (above, below) ∈ neighbours constants) (same : above.scope = below.scope) :
    ∃ run, IsRun constants run below.scope ∧ (above, below) ∈ neighbours run := by
  obtain ⟨before, after, shape⟩ := mem_neighbours_iff.mp member
  let inScope (constant : Constant) : Bool := constant.scope == below.scope
  have stops {rest : List Constant} {constant : Constant}
      (isHead : constant ∈ (rest.dropWhile inScope).head?) : constant.scope ≠ below.scope := by
    have outside := List.head?_dropWhile_not inScope rest
    rw [Option.mem_def.mp isHead] at outside
    simpa [inScope] using outside
  have inRun {rest : List Constant} {constant : Constant}
      (member : constant ∈ rest.takeWhile inScope) : constant.scope = below.scope :=
    beq_iff_eq.mp (List.all_eq_true.mp (List.all_takeWhile (p := inScope)) constant member)
  refine ⟨(before.reverse.takeWhile inScope).reverse ++ [above, below] ++ after.takeWhile inScope,
    ⟨?_, (before.reverse.dropWhile inScope).reverse, after.dropWhile inScope, ?_, ?_, ?_⟩,
    mem_neighbours_iff.mpr (List.infix_append _ _ _)⟩
  · intro constant member
    simp only [List.mem_append, List.mem_reverse, List.mem_cons, List.not_mem_nil, or_false]
      at member
    rcases member with (upper | rfl | rfl) | lower
    · exact inRun upper
    · exact same
    · rfl
    · exact inRun lower
  · have upper : (before.reverse.dropWhile inScope).reverse ++
        (before.reverse.takeWhile inScope).reverse = before := by
      rw [← List.reverse_append, List.takeWhile_append_dropWhile, List.reverse_reverse]
    have lower : after.takeWhile inScope ++ after.dropWhile inScope = after :=
      List.takeWhile_append_dropWhile
    calc
      constants = before ++ [above, below] ++ after := shape.symm
      _ = ((before.reverse.dropWhile inScope).reverse ++
            (before.reverse.takeWhile inScope).reverse) ++ [above, below] ++
          (after.takeWhile inScope ++ after.dropWhile inScope) := by rw [upper, lower]
      _ = _ := by simp only [List.append_assoc]
  · intro constant isLast
    rw [List.getLast?_reverse] at isLast
    exact stops isLast
  · exact fun constant isHead => stops isHead

/-- Names that are not empty are ordered by their small letters. -/
theorem namesOrdered_of_filled {first second : Text} (filled : first ≠ [])
    (alsoFilled : second ≠ []) :
    namesOrdered first second = true ↔ Text.lowercase first < Text.lowercase second := by
  simp [namesOrdered, filled, alsoFilled, Text.caselessBefore]

/-- All constants are in order if all neighbours with the same scope are. -/
theorem unorderedConstants_eq_nil_iff (filled : ∀ constant ∈ constants, constant.name ≠ []) :
    unorderedConstants constants = [] ↔ ∀ pair ∈ neighbours constants,
      pair.1.scope = pair.2.scope → Text.lowercase pair.1.name < Text.lowercase pair.2.name := by
  rw [unorderedConstants, List.filter_eq_nil_iff]
  refine forall₂_congr fun pair member => ?_
  obtain ⟨inFirst, inSecond⟩ := mem_of_mem_neighbours member
  rw [← namesOrdered_of_filled (filled _ inFirst) (filled _ inSecond)]
  simp

/-- If all constants have names, comparing neighbours decides whether they are in order. -/
theorem unorderedConstants_eq_nil_iff_sorted
    (filled : ∀ constant ∈ constants, constant.name ≠ []) :
    unorderedConstants constants = [] ↔ ConstantsSorted constants := by
  rw [unorderedConstants_eq_nil_iff filled]
  constructor
  · rintro ordered run scope ⟨oneScope, above, below, rfl, -, -⟩
    rw [pairwise_lt_iff_neighbours fun constant : Constant => Text.lowercase constant.name]
    intro pair member
    obtain ⟨inFirst, inSecond⟩ := mem_of_mem_neighbours member
    refine ordered pair (mem_neighbours_of_part (List.infix_append _ _ _) member) ?_
    rw [oneScope _ inFirst, oneScope _ inSecond]
  · rintro sorted ⟨above, below⟩ member same
    obtain ⟨run, isRun, inRun⟩ := exists_run_of_mem_neighbours member same
    have pairwise := sorted run below.scope isRun
    rw [pairwise_lt_iff_neighbours fun constant : Constant => Text.lowercase constant.name]
      at pairwise
    exact pairwise _ inRun

end Constants

/-- No problem of a kind is reported if and only if no pair of the symbols of this kind is out of
order. -/
theorem checkSymbols_kind_ne_iff (config : OrderingConfig) (symbols : Symbols) (kind : ProblemKind) :
    (∀ problem ∈ checkSymbols config symbols, problem.kind ≠ kind) ↔
      (kind = .unorderedFunctions → unorderedFunctions config symbols.functions = []) ∧
      (kind = .unorderedNamespaces → unorderedNamespaces symbols.functions = []) ∧
      (kind = .unorderedIncludes → unorderedIncludes symbols.includes = []) ∧
      (kind = .unorderedConstants → unorderedConstants symbols.constants = []) := by
  have one {value : Type} {own : ProblemKind} (problemOf : value → Problem)
      (isOwn : ∀ item, (problemOf item).kind = own) (items : List value) :
      (∀ problem ∈ items.map problemOf, problem.kind ≠ kind) ↔ (kind = own → items = []) := by
    rw [List.forall_mem_map]
    simp only [isOwn, List.eq_nil_iff_forall_not_mem]
    exact ⟨fun different same item member => different item member same.symm,
      fun none item member same => none same.symm item member⟩
  simp only [checkSymbols, List.forall_mem_append, and_assoc]
  exact and_congr (one functionProblem (fun _ => rfl) _)
    (and_congr (one namespaceProblem (fun _ => rfl) _)
      (and_congr (one includeProblem (fun _ => rfl) _) (one constantProblem (fun _ => rfl) _)))

end Ordering

/-- The name of a constant is not empty. -/
theorem Symbols.name_ne_nil_of_mem_constantsFrom {number : Nat} {lines : List Text}
    {constant : Constant} (member : constant ∈ constantsFrom none number lines) :
    constant.name ≠ [] := by
  obtain ⟨index, line, -, declared⟩ := exists_line_of_mem_constantsFrom member
  have opened := @Constant.isName_of_foldl_scopeAfter (lines.take index) none (by simp)
  have isName := (Constant.wellFormed_of_onLine? opened declared).name
  intro empty
  rw [empty] at isName
  exact isName

namespace Ordering

/-- The check reports no includes of a file if and only if all of them are in order, and no constants
if and only if all of them are in order. -/
theorem check_iff_sorted (config : OrderingConfig) (frameworks : List Text) (text : Text) :
    let symbols := Symbols.ofText frameworks text
    let problems := check config ⟨Text.lines text, some symbols⟩
    ((∀ problem ∈ problems, problem.kind ≠ .unorderedIncludes) ↔ IncludesSorted symbols.includes) ∧
    ((∀ problem ∈ problems, problem.kind ≠ .unorderedConstants) ↔
      ConstantsSorted symbols.constants) := by
  intro symbols problems
  have ascending : symbols.includes.Pairwise fun above below => above.line < below.line :=
    List.pairwise_map.mp (Symbols.includesFrom_ascending frameworks 1 (Text.lines text)).increasing
  have named : ∀ constant ∈ symbols.constants, constant.name ≠ [] :=
    fun constant member => Symbols.name_ne_nil_of_mem_constantsFrom member
  rw [← unorderedIncludes_eq_nil_iff_sorted ascending, ← unorderedConstants_eq_nil_iff_sorted named]
  constructor
  · exact (checkSymbols_kind_ne_iff config symbols .unorderedIncludes).trans (by simp)
  · exact (checkSymbols_kind_ne_iff config symbols .unorderedConstants).trans (by simp)

end Ordering

end HouseStyle
