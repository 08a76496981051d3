/-
This file proves when two functions of a file have the same documentation block.
-/

import HouseStyle.Proofs.Source.Composition
import HouseStyle.Config.Validity
import HouseStyle.Rule.Documentation

namespace HouseStyle

namespace Symbols

/-- The line of a function is one of the lines that are read. -/
theorem line_lt_of_mem_functionsFrom {number : Nat} {lines : List Text} {function : Function}
    (member : function ∈ functionsFrom number lines) :
    function.line < number + lines.length :=
  ((functionsFrom_ascending number lines).bounds _ (List.mem_map_of_mem member)).2

/-- The functions of a file are listed from the top to the bottom, one for each line at most. -/
theorem functionsFrom_ordered (number : Nat) (lines : List Text) :
    (functionsFrom number lines).Pairwise fun above below => above.line < below.line :=
  List.pairwise_map.mp (functionsFrom_ascending number lines).increasing

end Symbols

namespace Documentation

variable {rule : Documentation}

/-- The search for a block goes on above the line. -/
def passes (rule : Documentation) (line : Text) : Bool :=
  !rule.startsBlock line && !Text.isBlank line

/-- The lines from one declaration to the line above another one. -/
def linesBetween (lines : List Text) (above below : Function) : List Text :=
  (lines.drop (above.line - 1)).take (below.line - above.line)

/-- The lines above a function start with those above an earlier one. -/
theorem linesAbove_eq_append (lines : List Text) {above below : Function}
    (positive : 1 ≤ above.line) (order : above.line < below.line) :
    linesAbove lines below.line =
      linesAbove lines above.line ++ linesBetween lines above below := by
  have distance : below.line - 1 = (above.line - 1) + (below.line - above.line) := by omega
  rw [linesAbove, distance, List.take_add]
  rfl

/-- Lines that pass do not end the search upwards. -/
theorem findStart?_append_passing {skipped : List Text}
    (pass : ∀ line ∈ skipped, rule.passes line = true) (above : List Text) :
    rule.findStart? (skipped ++ above) = rule.findStart? above := by
  induction skipped with
  | nil => rfl
  | cons line skipped inductionHypothesis =>
      have lineStart : rule.startsBlock line = false ∧ Text.isBlank line = false := by
        simpa [passes] using pass line List.mem_cons_self
      rw [List.cons_append, findStart?, lineStart.1, lineStart.2]
      exact inductionHypothesis fun other member => pass other (List.mem_cons_of_mem _ member)

/-- A line that does not pass keeps the search away from all lines above it. -/
theorem findStart?_append_stopping {lines : List Text}
    (stops : ¬ ∀ line ∈ lines, rule.passes line = true) (above : List Text) :
    rule.findStart? (lines ++ above) = (rule.findStart? lines).map (· + above.length) := by
  induction lines with
  | nil => simp at stops
  | cons line lines inductionHypothesis =>
      rw [List.cons_append, findStart?, findStart?]
      by_cases starts : rule.startsBlock line = true
      · simp [starts]
      · by_cases blank : Text.isBlank line = true
        · simp [starts, blank]
        · have later : ¬ ∀ other ∈ lines, rule.passes other = true := by
            intro pass
            apply stops
            intro other member
            rcases List.mem_cons.mp member with rfl | inRest
            · simp [passes, starts, blank]
            · exact pass other inRest
          simp only [starts, blank, Bool.false_eq_true, if_false]
          exact inductionHypothesis later

/-- The line that opens a block is one of the lines above. -/
theorem findStart?_lt {above : List Text} {index : Nat}
    (found : rule.findStart? above = some index) : index < above.length := by
  induction above with
  | nil => simp [findStart?] at found
  | cons line above inductionHypothesis =>
      rw [findStart?] at found
      rw [List.length_cons]
      split at found
      next => simp at found; omega
      next =>
        split at found
        next => simp at found
        next => exact Nat.lt_succ_of_lt (inductionHypothesis found)

/-- Without a line that opens a block the search finds nothing. -/
theorem findStart?_eq_none {lines : List Text}
    (noStart : ∀ line ∈ lines, rule.startsBlock line = false) : rule.findStart? lines = none := by
  induction lines with
  | nil => rfl
  | cons line lines inductionHypothesis =>
      rw [findStart?, noStart line List.mem_cons_self]
      have later := inductionHypothesis fun other member =>
        noStart other (List.mem_cons_of_mem _ member)
      split
      next impossible => simp at impossible
      next =>
        split
        next => rfl
        next => exact later

theorem length_linesAbove {lines : List Text} {number : Nat} (inside : number - 1 ≤ lines.length) :
    (linesAbove lines number).length = number - 1 := by
  rw [linesAbove, List.length_take]
  exact Nat.min_eq_left inside

/-- The search from the lower declaration continues above the upper one. -/
theorem blockStart?_of_passing {lines : List Text} {above below : Function}
    (positive : 1 ≤ above.line) (order : above.line < below.line)
    (pass : ∀ line ∈ linesBetween lines above below, rule.passes line = true) :
    rule.blockStart? lines below.line = rule.blockStart? lines above.line := by
  rw [blockStart?, linesAbove_eq_append lines positive order, List.reverse_append]
  apply findStart?_append_passing
  intro line member
  exact pass line (List.mem_reverse.mp member)

/-- The search from the lower declaration ends between the two declarations. -/
theorem blockStart?_of_stopping {lines : List Text} {above below : Function}
    (positive : 1 ≤ above.line) (order : above.line < below.line)
    (inside : above.line - 1 ≤ lines.length)
    (stops : ¬ ∀ line ∈ linesBetween lines above below, rule.passes line = true) :
    rule.blockStart? lines below.line =
      (rule.findStart? (linesBetween lines above below).reverse).map (· + (above.line - 1)) := by
  have stopsBackwards :
      ¬ ∀ line ∈ (linesBetween lines above below).reverse, rule.passes line = true := by
    intro pass
    exact stops fun line member => pass line (List.mem_reverse.mpr member)
  rw [blockStart?, linesAbove_eq_append lines positive order, List.reverse_append,
    findStart?_append_stopping stopsBackwards, List.length_reverse, length_linesAbove inside]

/-- A block starts above its function. -/
theorem blockStart?_lt {lines : List Text} {number index : Nat}
    (found : rule.blockStart? lines number = some index) : index < number - 1 := by
  have below := findStart?_lt found
  rw [List.length_reverse, linesAbove, List.length_take] at below
  omega

/-- A function is without documentation if it has no block. -/
theorem mem_checkFunction_missing_iff {lines : List Text} {function other : Function} :
    missing other ∈ rule.checkFunction lines function ↔
      missing other = missing function ∧ rule.blockStart? lines function.line = none := by
  rw [checkFunction]
  split
  next none => simp [none]
  next start found =>
    simp only [found, reduceCtorEq, and_false, iff_false]
    intro member
    rcases List.mem_append.mp member with undocumented | unknown
    · obtain ⟨name, _, same⟩ := List.mem_map.mp undocumented
      simp [missing, parameterProblem] at same
    · obtain ⟨name, _, same⟩ := List.mem_map.mp unknown
      simp [missing, parameterProblem] at same

/-- A function is reported as undocumented if and only if the search finds no block for it. -/
theorem mem_check_missing_iff {lines : List Text} {symbols : Symbols} {function : Function}
    (member : function ∈ symbols.functions) :
    missing function ∈ rule.check ⟨lines, some symbols⟩ ↔
      rule.blockStart? lines function.line = none := by
  rw [check, List.mem_flatMap]
  constructor
  · rintro ⟨other, _, problem⟩
    obtain ⟨same, found⟩ := mem_checkFunction_missing_iff.mp problem
    have sameLine : function.line = other.line := congrArg Problem.line same
    rw [sameLine]
    exact found
  · intro found
    exact ⟨function, member, mem_checkFunction_missing_iff.mpr ⟨rfl, found⟩⟩

/-- Two functions have the same block if and only if the search passes all lines from the upper
declaration to the lower one. If it stops there, the block of the lower function starts there, too.
A function without a block of its own is reported if and only if a blank line separates it from the
function above or that function has no block. -/
theorem sharedBlock_iff_passes (rule : Documentation) (frameworks : List Text) (text : Text) :
    let lines := Text.lines text
    let symbols := Symbols.ofText frameworks text
    symbols.functions.Pairwise fun above below =>
      let between := linesBetween lines above below
      above.line < below.line ∧
      (∀ first second, rule.blockStart? lines above.line = some first →
        rule.blockStart? lines below.line = some second →
          (first = second ↔ ∀ line ∈ between, rule.passes line = true) ∧
            (first ≠ second → above.line - 1 ≤ second)) ∧
      ((∀ line ∈ between, rule.startsBlock line = false) →
        (missing below ∈ rule.check ⟨lines, some symbols⟩ ↔
          (∃ line ∈ between, Text.isBlank line = true) ∨
            rule.blockStart? lines above.line = none)) := by
  intro lines symbols
  have ordered : symbols.functions.Pairwise fun above below => above.line < below.line :=
    Symbols.functionsFrom_ordered 1 lines
  apply List.Pairwise.imp_of_mem _ ordered
  intro above below aboveMember belowMember order between
  have positive : 1 ≤ above.line := Symbols.le_line_of_mem_functionsFrom aboveMember
  have inside : above.line - 1 ≤ lines.length := by
    have upper : above.line < 1 + lines.length := Symbols.line_lt_of_mem_functionsFrom aboveMember
    omega
  refine ⟨order, ?_, ?_⟩
  · intro first second aboveFound belowFound
    have upper := blockStart?_lt aboveFound
    by_cases pass : ∀ line ∈ between, rule.passes line = true
    · have same := blockStart?_of_passing positive order pass
      rw [aboveFound, belowFound] at same
      have equal : first = second := (Option.some.inj same).symm
      exact ⟨iff_of_true equal pass, fun different => absurd equal different⟩
    · rw [blockStart?_of_stopping positive order inside pass] at belowFound
      obtain ⟨index, _, sum⟩ := Option.map_eq_some_iff.mp belowFound
      refine ⟨?_, fun _ => by omega⟩
      constructor
      · intro same
        omega
      · intro all
        exact absurd all pass
  · intro noStart
    rw [mem_check_missing_iff belowMember]
    by_cases pass : ∀ line ∈ between, rule.passes line = true
    · rw [blockStart?_of_passing positive order pass]
      have noBlank : ¬ ∃ line ∈ between, Text.isBlank line = true := by
        rintro ⟨line, member, blank⟩
        simpa [passes, blank] using pass line member
      simp [noBlank]
    · have noneBetween : rule.findStart? between.reverse = none := by
        apply findStart?_eq_none
        intro line member
        exact noStart line (List.mem_reverse.mp member)
      have blank : ∃ line ∈ between, Text.isBlank line = true := by
        apply Classical.byContradiction
        intro noBlank
        apply pass
        intro line member
        have filled : Text.isBlank line = false :=
          Bool.eq_false_iff.mpr fun blank => noBlank ⟨line, member, blank⟩
        rw [passes, noStart line member, filled]
        rfl
      rw [blockStart?_of_stopping positive order inside pass, noneBetween]
      simp [blank]

/-- The second function has the block of the first one, because no blank line separates them. -/
theorem not_differentBlocks :
    ¬ ∀ (config : Config) (rule : Documentation) (frameworks : List Text) (text : Text),
      config.validate = .ok () → ofConfig config.documentation = .ok rule →
      ∀ function ∈ (Symbols.ofText frameworks text).functions,
      ∀ other ∈ (Symbols.ofText frameworks text).functions, function ≠ other →
      ∀ first second, rule.blockStart? (Text.lines text) function.line = some first →
        rule.blockStart? (Text.lines text) other.line = some second → first ≠ second := by
  intro different
  let text := "/**\n */\nvoid a() \x7b\n\x7d\nvoid b() \x7b\n\x7d\n".toList
  let first : Function := { scope := [], name := ['a'], line := 3, parameters := [] }
  let second : Function := { scope := [], name := ['b'], line := 5, parameters := [] }
  exact different {} _ [] text rfl rfl first (by decide) second (by decide) (by decide) 0 0
    rfl rfl rfl

end Documentation

end HouseStyle
