/-
This file proves in which order the problems of a file are listed: rule by rule, and inside a rule
from the top of the file to the bottom.
-/

import HouseStyle.Proofs.Source.Lines
import HouseStyle.Linter

namespace HouseStyle

/-- The place of a kind of problem in the list for one file. Places with the same number hold the
problems of one check. -/
def ProblemKind.place : ProblemKind → Nat
  | longLine => 0
  | unorderedFunctions => 1
  | unorderedNamespaces => 2
  | unorderedIncludes => 3
  | unorderedConstants => 4
  | crampedCloseBrace => 5
  | crampedIncludes => 5
  | crampedUsings => 5
  | missingDocumentation => 6
  | undocumentedParameter => 6
  | unknownDocumentedParameter => 6
  | forbiddenToken => 7
  | unreadableFile => 8

namespace Problem

/-- The problem is about the documentation of a parameter of the function. -/
def ConcernsParameter (function : Function) (problem : Problem) : Prop :=
  (problem.kind = .undocumentedParameter ∨ problem.kind = .unknownDocumentedParameter) ∧
    problem.line = function.line ∧
    ∃ name, problem.detail = (Documentation.parameterProblem problem.kind function name).detail

/-- Both problems are about parameters of one function. Undocumented parameters come before unknown
ones. -/
def ShareFunction (functions : List Function) (first second : Problem) : Prop :=
  ∃ function ∈ functions, ConcernsParameter function first ∧ ConcernsParameter function second ∧
    (first.kind = .undocumentedParameter ∨ second.kind = .unknownDocumentedParameter)

/-- The first problem comes before the second one in the list for a file. In one place of the list,
the second problem stands on a later line, or both are about one of the functions. -/
def InOrder (functions : List Function) (first second : Problem) : Prop :=
  first.kind.place < second.kind.place ∨
    first.kind.place = second.kind.place ∧
      (first.line < second.line ∨ ShareFunction functions first second)

/-- Problems of one place on lines that increase strictly, from `first` to the line before `last`. -/
structure Rising (place first last : Nat) (problems : List Problem) : Prop where
  places : ∀ problem ∈ problems, problem.kind.place = place
  lines : Ascending first last (problems.map line)

namespace Rising

variable {place first last number count : Nat} {problem : Problem} {problems : List Problem}

theorem nil : Rising place first last [] :=
  ⟨fun _ member => absurd member List.not_mem_nil, Ascending.nil⟩

theorem cons (here : problem.kind.place = place) (lower : first ≤ problem.line)
    (upper : problem.line < last) (later : Rising place (problem.line + 1) last problems) :
    Rising place first last (problem :: problems) where
  places := List.forall_mem_cons.mpr ⟨here, later.places⟩
  lines := later.lines.cons lower upper

theorem mono {start : Nat} (lower : first ≤ start) (rising : Rising place start last problems) :
    Rising place first last problems :=
  ⟨rising.places, rising.lines.mono lower⟩

/-- No problem stands on the first of some lines. -/
theorem skip (later : Rising place (number + 1) (number + 1 + count) problems) :
    Rising place number (number + (count + 1)) problems :=
  ⟨later.places, later.lines.skip⟩

/-- A problem stands on the first of some lines. -/
theorem take (here : problem.kind.place = place) (onLine : problem.line = number)
    (later : Rising place (number + 1) (number + 1 + count) problems) :
    Rising place number (number + (count + 1)) (problem :: problems) where
  places := List.forall_mem_cons.mpr ⟨here, later.places⟩
  lines := by
    rw [List.map_cons, onLine]
    exact later.lines.take

end Rising

/-- A part of the list for a file with `count` lines. It holds the places from `first` to the one
before `last`. -/
structure Stretch (functions : List Function) (count first last : Nat) (problems : List Problem) :
    Prop where
  inOrder : problems.Pairwise (InOrder functions)
  onLines : ∀ problem ∈ problems, 1 ≤ problem.line ∧ problem.line ≤ count
  places : ∀ problem ∈ problems, first ≤ problem.kind.place ∧ problem.kind.place < last

namespace Stretch

variable {functions : List Function} {count first last : Nat} {problems others : List Problem}

theorem nil : Stretch functions count first last [] :=
  ⟨List.Pairwise.nil, fun _ member => absurd member List.not_mem_nil,
    fun _ member => absurd member List.not_mem_nil⟩

/-- Two stretches in a row are a stretch. A problem of the first one comes before all problems of
the second one. -/
theorem append (middle : Nat) (lower : first ≤ middle) (upper : middle ≤ last)
    (before : Stretch functions count first middle problems)
    (after : Stretch functions count middle last others) :
    Stretch functions count first last (problems ++ others) where
  inOrder := by
    refine List.pairwise_append.mpr ⟨before.inOrder, after.inOrder, ?_⟩
    intro problem inBefore other inAfter
    exact Or.inl (Nat.lt_of_lt_of_le (before.places problem inBefore).2
      (after.places other inAfter).1)
  onLines := by
    intro problem member
    exact (List.mem_append.mp member).elim (before.onLines problem) (after.onLines problem)
  places := by
    intro problem member
    rcases List.mem_append.mp member with inBefore | inAfter
    · have place := before.places problem inBefore
      exact ⟨place.1, Nat.lt_of_lt_of_le place.2 upper⟩
    · have place := after.places problem inAfter
      exact ⟨Nat.le_trans lower place.1, place.2⟩

/-- Problems of one place on ascending lines are a stretch. -/
theorem ofRising {place : Nat} (rising : Rising place 1 (1 + count) problems) :
    Stretch functions count place (place + 1) problems where
  inOrder := by
    apply (List.pairwise_map.mp rising.lines.increasing).imp_of_mem
    intro problem other inFirst inSecond lower
    exact Or.inr ⟨(rising.places problem inFirst).trans (rising.places other inSecond).symm,
      Or.inl lower⟩
  onLines := by
    intro problem member
    have bounds := rising.lines.bounds _ (List.mem_map_of_mem member)
    omega
  places := by
    intro problem member
    rw [rising.places problem member]
    exact ⟨Nat.le_refl place, Nat.lt_succ_self place⟩

end Stretch

end Problem

open Problem (Stretch Rising)

/-- There is one problem of length for each line at most. -/
theorem LineLength.checkFrom_rising (max number : Nat) (lines : List Text) :
    Rising 0 number (number + lines.length) (checkFrom max number lines) := by
  induction lines generalizing number with
  | nil => exact Rising.nil
  | cons line lines inductionHypothesis =>
      rw [checkFrom]
      split
      next => exact (inductionHypothesis (number + 1)).take rfl rfl
      next => exact (inductionHypothesis (number + 1)).skip

/-- There is one problem of forbidden patterns for each line at most. -/
theorem Forbidden.checkFrom_rising (patterns : List Pattern) (number : Nat) (lines : List Text) :
    Rising 7 number (number + lines.length) (checkFrom patterns number lines) := by
  induction lines generalizing number with
  | nil => exact Rising.nil
  | cons line lines inductionHypothesis =>
      rw [checkFrom]
      split
      next => exact (inductionHypothesis (number + 1)).skip
      next => exact (inductionHypothesis (number + 1)).take rfl rfl

namespace Spacing

/-- The block that is open after a line. -/
def openAfter (current : Option Block) (number : Nat) (line : Text) : Option Block :=
  if Text.isBlank line then
    current.map fun block => { block with blankLines := block.blankLines + 1 }
  else (Trigger.ofLine? line).map fun trigger => { trigger, lastLine := number, blankLines := 0 }

/-- The open block, if the line ends it and too few blank lines are in front of the line. -/
def crampedBy? (minimum : Nat) (line : Text) (current : Option Block) : Option Block :=
  current.filter fun block => !Text.isBlank line && Trigger.ofLine? line != some block.trigger &&
    decide (block.blankLines < minimum)

/-- A line may be too close to the open block, and then the check goes on with the next line. -/
theorem checkFrom_cons (minimum : Nat) (current : Option Block) (number : Nat) (line : Text)
    (lines : List Text) :
    checkFrom minimum current number (line :: lines) =
      ((crampedBy? minimum line current).map (cramped minimum)).toList ++
        checkFrom minimum (openAfter current number line) (number + 1) lines := by
  rw [checkFrom, openAfter, crampedBy?]
  cases blank : Text.isBlank line with
  | true => cases current <;> rfl
  | false =>
      cases current with
      | none => rfl
      | some block =>
          by_cases same : Trigger.ofLine? line = some block.trigger
          · simp [same]
          · have ends : (Trigger.ofLine? line != some block.trigger) = true := bne_iff_ne.mpr same
            by_cases few : block.blankLines < minimum <;> simp [Option.filter, same, ends, few]

/-- The line of an open block stands above the lines that follow. -/
theorem openAfter_above {current : Option Block} {first number : Nat} {line : Text}
    (lower : first ≤ number)
    (above : ∀ block ∈ current, first ≤ block.lastLine ∧ block.lastLine < number) :
    ∀ block ∈ openAfter current number line,
      first ≤ block.lastLine ∧ block.lastLine < number + 1 := by
  intro block member
  rw [openAfter] at member
  split at member
  next =>
    obtain ⟨old, isCurrent, rfl⟩ := Option.map_eq_some_iff.mp member
    have position := above old isCurrent
    exact ⟨position.1, Nat.lt_succ_of_lt position.2⟩
  next =>
    obtain ⟨trigger, _, rfl⟩ := Option.map_eq_some_iff.mp member
    exact ⟨lower, Nat.lt_succ_self number⟩

theorem place_cramped (minimum : Nat) (block : Block) : (cramped minimum block).kind.place = 5 := by
  rw [cramped]
  cases block.trigger <;> rfl

/-- A line that ends a block opens the next one, if it opens one at all, on this line. -/
theorem openAfter_of_crampedBy? {minimum : Nat} (number : Nat) {current : Option Block} {line : Text}
    {block : Block} (ended : crampedBy? minimum line current = some block) :
    current = some block ∧ ∀ next ∈ openAfter current number line, next.lastLine = number := by
  obtain ⟨isCurrent, conditions⟩ := Option.filter_eq_some_iff.mp ended
  have filled : Text.isBlank line = false := by
    simp only [Bool.and_eq_true, Bool.not_eq_true'] at conditions
    exact conditions.1.1
  refine ⟨isCurrent, ?_⟩
  intro next member
  rw [openAfter, filled] at member
  obtain ⟨trigger, _, rfl⟩ := Option.map_eq_some_iff.mp member
  rfl

/-- The problem of a block stands on the last line of the block. -/
theorem checkFrom_rising (minimum : Nat) (current : Option Block) {first number : Nat}
    (lines : List Text) (lower : first ≤ number)
    (above : ∀ block ∈ current, first ≤ block.lastLine ∧ block.lastLine < number) :
    Rising 5 first (number + lines.length) (checkFrom minimum current number lines) := by
  induction lines generalizing current first number with
  | nil => exact Rising.nil
  | cons line lines inductionHypothesis =>
      rw [checkFrom_cons, List.length_cons,
        show number + (lines.length + 1) = number + 1 + lines.length by omega]
      cases ended : crampedBy? minimum line current with
      | none =>
          exact inductionHypothesis _ (Nat.le_succ_of_le lower) (openAfter_above lower above)
      | some block =>
          obtain ⟨isCurrent, opened⟩ := openAfter_of_crampedBy? number ended
          have position := above block isCurrent
          have later : Rising 5 number (number + 1 + lines.length)
              (checkFrom minimum (openAfter current number line) (number + 1) lines) := by
            apply inductionHypothesis _ (Nat.le_succ number)
            intro next member
            rw [opened next member]
            exact ⟨Nat.le_refl number, Nat.lt_succ_self number⟩
          refine Rising.cons (place_cramped minimum block) position.1 ?_ (later.mono position.2)
          show block.lastLine < number + 1 + lines.length
          omega

end Spacing

namespace Ordering

variable {functions : List Function} {count : Nat}

/-- The first parts of the pairs of neighbours stand in the list in the same order. -/
theorem neighbours_sublist {value : Type} (values : List value) :
    ((neighbours values).map Prod.fst).Sublist values := by
  fun_induction neighbours values with
  | case1 first second rest inductionHypothesis =>
      rw [List.map_cons]
      exact inductionHypothesis.cons_cons first
  | case2 => exact List.nil_sublist _

/-- Neighbours stay neighbours when all values are changed. -/
theorem neighbours_map {first second : Type} (change : first → second) (values : List first) :
    neighbours (values.map change) = (neighbours values).map (Prod.map change change) := by
  induction values with
  | nil => rfl
  | cons front values inductionHypothesis =>
      cases values with
      | nil => rfl
      | cons next rest =>
          rw [List.map_cons] at inductionHypothesis
          rw [List.map_cons, List.map_cons, neighbours, inductionHypothesis]
          rfl

/-- The functions that start a scope are some of all functions, in their order. -/
theorem startersAfter_sublist (last : Option Text) (functions : List Function) :
    (startersAfter last functions).Sublist functions := by
  induction functions generalizing last with
  | nil => exact List.Sublist.refl []
  | cons function functions inductionHypothesis =>
      rw [startersAfter]
      split
      next => exact (inductionHypothesis last).cons function
      next => exact (inductionHypothesis (some function.scope)).cons_cons function

/-- Problems with pairs of neighbours, each on the line of its first part, are a stretch. -/
theorem stretch_neighbours {value : Type} {lineOf : value → Nat} {values : List value}
    (ascending : Ascending 1 (1 + count) (values.map lineOf)) (keep : value × value → Bool)
    {problemOf : value × value → Problem} {place : Nat}
    (here : ∀ pair, (problemOf pair).kind.place = place)
    (onLine : ∀ pair, (problemOf pair).line = lineOf pair.1) :
    Stretch functions count place (place + 1)
      (((neighbours values).filter keep).map problemOf) := by
  apply Stretch.ofRising
  constructor
  · intro problem member
    obtain ⟨pair, _, rfl⟩ := List.mem_map.mp member
    exact here pair
  · have lines : (((neighbours values).filter keep).map problemOf).map Problem.line =
        (((neighbours values).filter keep).map Prod.fst).map lineOf := by
      simp only [List.map_map, Function.comp_def, onLine]
    rw [lines]
    apply ascending.sublist
    apply List.Sublist.map
    exact (List.filter_sublist.map Prod.fst).trans (neighbours_sublist values)

/-- Includes come first, then constants, then functions and scopes. -/
theorem stretch_checkSymbols (config : OrderingConfig) (frameworks : List Text)
    (lines : List Text) :
    Stretch functions lines.length 1 5
      (checkSymbols config (Symbols.ofLines frameworks lines)) := by
  have functionLines := Symbols.functionsFrom_ascending 1 lines
  have starterLines := functionLines.sublist ((startersAfter_sublist none _).map Function.line)
  have includeLines := Symbols.includesFrom_ascending frameworks 1 lines
  have constantLines := Symbols.constantsFrom_ascending none 1 lines
  refine Stretch.append 4 (by decide) (by decide)
    (Stretch.append 3 (by decide) (by decide)
      (Stretch.append 2 (by decide) (by decide) ?_ ?_) ?_) ?_
  · exact stretch_neighbours functionLines _ (fun _ => rfl) fun _ => rfl
  · exact stretch_neighbours starterLines _ (fun _ => rfl) fun _ => rfl
  · exact stretch_neighbours includeLines _ (fun _ => rfl) fun _ => rfl
  · exact stretch_neighbours constantLines _ (fun _ => rfl) fun _ => rfl

end Ordering

namespace Documentation

variable {rule : Documentation} {functions : List Function} {lines : List Text}

theorem concernsParameter_parameterProblem {kind : ProblemKind} {function : Function} {name : Text}
    (isParameter : kind = .undocumentedParameter ∨ kind = .unknownDocumentedParameter) :
    (parameterProblem kind function name).ConcernsParameter function :=
  ⟨isParameter, rfl, name, rfl⟩

/-- The problems of a function stand on the line of its declaration. -/
theorem line_of_mem_checkFunction {function : Function} {problem : Problem}
    (member : problem ∈ rule.checkFunction lines function) :
    problem.line = function.line ∧ problem.kind.place = 6 := by
  rw [checkFunction] at member
  split at member
  next =>
    obtain rfl := List.mem_singleton.mp member
    exact ⟨rfl, rfl⟩
  next =>
    rcases List.mem_append.mp member with undocumented | unknown
    · obtain ⟨name, _, rfl⟩ := List.mem_map.mp undocumented
      exact ⟨rfl, rfl⟩
    · obtain ⟨name, _, rfl⟩ := List.mem_map.mp unknown
      exact ⟨rfl, rfl⟩

/-- Several problems of one function are about its parameters. -/
theorem checkFunction_inOrder {function : Function} (member : function ∈ functions) :
    (rule.checkFunction lines function).Pairwise (Problem.InOrder functions) := by
  have inOrder {first second : ProblemKind} {name other : Text}
      (firstParameter : first = .undocumentedParameter ∨ first = .unknownDocumentedParameter)
      (secondParameter : second = .undocumentedParameter ∨ second = .unknownDocumentedParameter)
      (order : first = .undocumentedParameter ∨ second = .unknownDocumentedParameter) :
      (parameterProblem first function name).InOrder functions
        (parameterProblem second function other) := by
    refine Or.inr ⟨?_, Or.inr ⟨function, member,
      concernsParameter_parameterProblem firstParameter,
      concernsParameter_parameterProblem secondParameter, order⟩⟩
    rcases firstParameter with rfl | rfl <;> rcases secondParameter with rfl | rfl <;> rfl
  rw [checkFunction]
  split
  next => exact List.pairwise_singleton _ _
  next =>
    refine List.pairwise_append.mpr ⟨?_, ?_, ?_⟩
    · exact List.pairwise_map.mpr (List.pairwise_of_forall fun _ _ =>
        inOrder (Or.inl rfl) (Or.inl rfl) (Or.inl rfl))
    · exact List.pairwise_map.mpr (List.pairwise_of_forall fun _ _ =>
        inOrder (Or.inr rfl) (Or.inr rfl) (Or.inr rfl))
    · intro problem undocumented other unknown
      obtain ⟨name, _, rfl⟩ := List.mem_map.mp undocumented
      obtain ⟨otherName, _, rfl⟩ := List.mem_map.mp unknown
      exact inOrder (Or.inl rfl) (Or.inr rfl) (Or.inl rfl)

/-- The problems of documentation are ordered by functions, because their lines increase. -/
theorem stretch_checkFunctions {count : Nat}
    (ascending : Ascending 1 (1 + count) (functions.map Function.line)) :
    Stretch functions count 6 7 (functions.flatMap (rule.checkFunction lines)) where
  inOrder := by
    refine List.pairwise_flatMap.mpr ⟨fun function => checkFunction_inOrder, ?_⟩
    apply (List.pairwise_map.mp ascending.increasing).imp
    intro above below lower problem inAbove other inBelow
    obtain ⟨line, place⟩ := line_of_mem_checkFunction inAbove
    obtain ⟨otherLine, otherPlace⟩ := line_of_mem_checkFunction inBelow
    refine Or.inr ⟨place.trans otherPlace.symm, Or.inl ?_⟩
    rw [line, otherLine]
    exact lower
  onLines := by
    intro problem member
    obtain ⟨function, inFunctions, found⟩ := List.mem_flatMap.mp member
    have bounds := ascending.bounds _ (List.mem_map_of_mem inFunctions)
    rw [(line_of_mem_checkFunction found).1]
    omega
  places := by
    intro problem member
    obtain ⟨function, _, found⟩ := List.mem_flatMap.mp member
    rw [(line_of_mem_checkFunction found).2]
    decide

end Documentation

namespace Rule

/-- The first place that the problems of a rule take. -/
def firstPlace : Rule → Nat
  | lineLength _ => 0
  | ordering _ => 1
  | spacing _ => 5
  | documentation _ => 6
  | forbidden _ => 7

/-- The place after the last one that the problems of a rule take. -/
def endPlace : Rule → Nat
  | lineLength _ => 1
  | ordering _ => 5
  | spacing _ => 6
  | documentation _ => 7
  | forbidden _ => 8

/-- The rule looks at the symbols of a file. -/
def needsSymbols : Rule → Bool
  | ordering _ => true
  | documentation _ => true
  | _ => false

/-- The problems of a rule are a stretch of the list for a file. -/
theorem check_stretch (rule : Rule) (frameworks : List Text) {source : Source}
    (symbols : source.symbols = none ∨
      source.symbols = some (Symbols.ofLines frameworks source.lines)) :
    Stretch (Symbols.ofLines frameworks source.lines).functions source.lines.length rule.firstPlace
      rule.endPlace (rule.check source) := by
  cases rule with
  | lineLength max => exact Stretch.ofRising (LineLength.checkFrom_rising max 1 source.lines)
  | spacing minimum =>
      exact Stretch.ofRising (Spacing.checkFrom_rising minimum none source.lines (Nat.le_refl 1)
        fun _ member => absurd member (Option.not_mem_none _))
  | forbidden patterns =>
      exact Stretch.ofRising (Forbidden.checkFrom_rising patterns 1 source.lines)
  | ordering config =>
      rw [check, Ordering.check]
      rcases symbols with none | some
      · rw [none]
        exact Stretch.nil
      · rw [some]
        exact Ordering.stretch_checkSymbols config frameworks source.lines
  | documentation rule =>
      rw [check, Documentation.check]
      rcases symbols with none | some
      · rw [none]
        exact Stretch.nil
      · rw [some]
        exact Documentation.stretch_checkFunctions
          (Symbols.functionsFrom_ascending 1 source.lines)

/-- A rule that needs symbols finds nothing without them. -/
theorem check_eq_nil_of_symbols {rule : Rule} {source : Source} (needs : rule.needsSymbols = true)
    (none : source.symbols = none) : rule.check source = [] := by
  cases rule with
  | ordering config => rw [check, Ordering.check, none]
  | documentation rule => rw [check, Documentation.check, none]
  | lineLength | spacing | forbidden => exact absurd needs Bool.false_ne_true

end Rule

end HouseStyle
