/-
This file proves that empty lines in front of a file move the problems that a rule finds down and that
empty lines at the end of a file do not change them.
-/

import HouseStyle.Proofs.Source.EmptyLines
import HouseStyle.Proofs.Rule.Block
import HouseStyle.Proofs.Rule.Sequence

namespace HouseStyle

namespace Problem

/-- The kind of a problem and its line. -/
def mark (problem : Problem) : ProblemKind × Nat :=
  (problem.kind, problem.line)

/-- The mark of a problem that has moved down by some lines. -/
def markBelow (count : Nat) (problem : Problem) : ProblemKind × Nat :=
  (problem.kind, problem.line + count)

/-- The second problems are the first ones after they have moved down. Their details may differ,
because a detail names the line. -/
def MovedDown (count : Nat) (problems moved : List Problem) : Prop :=
  moved.map mark = problems.map (markBelow count)

namespace MovedDown

variable {count : Nat} {problems moved others othersMoved : List Problem}

theorem nil : MovedDown count [] [] := rfl

/-- The parts of a list of problems move down together. -/
theorem append (first : MovedDown count problems moved)
    (second : MovedDown count others othersMoved) :
    MovedDown count (problems ++ others) (moved ++ othersMoved) := by
  rw [MovedDown, List.map_append, List.map_append, first, second]

/-- Problems move down if the problem of each item does. -/
theorem map {value : Type} {values : List value} {problemOf movedOf : value → Problem}
    (each : ∀ value ∈ values, (movedOf value).mark = (problemOf value).markBelow count) :
    MovedDown count (values.map problemOf) (values.map movedOf) := by
  rw [MovedDown, List.map_map, List.map_map]
  exact List.map_congr_left each

/-- Problems of several values move down if those of each value do. -/
theorem flatMap {value : Type} {values : List value} {problemsOf movedOf : value → List Problem}
    (each : ∀ value ∈ values, MovedDown count (problemsOf value) (movedOf value)) :
    MovedDown count (values.flatMap problemsOf) (values.flatMap movedOf) := by
  induction values with
  | nil => exact nil
  | cons value values inductionHypothesis =>
      obtain ⟨here, later⟩ := List.forall_mem_cons.mp each
      exact here.append (inductionHypothesis later)

end MovedDown

end Problem

open Problem (MovedDown)

/-- A check looks at each line by itself. -/
structure LineByLine (check : Nat → List Text → List Problem) : Prop where
  nil : ∀ number, check number [] = []
  cons : ∀ number line lines,
    check number (line :: lines) = check number [line] ++ check (number + 1) lines
  moved : ∀ number count line, MovedDown count (check number [line]) (check (number + count) [line])
  empty : ∀ number, check number [[]] = []

namespace LineByLine

variable {check : Nat → List Text → List Problem}

/-- A rule that looks at single lines moves its problems down with the number of the first line. -/
theorem movedDown (each : LineByLine check) (number count : Nat) (lines : List Text) :
    MovedDown count (check number lines) (check (number + count) lines) := by
  induction lines generalizing number with
  | nil =>
      rw [each.nil, each.nil]
      exact MovedDown.nil
  | cons line lines inductionHypothesis =>
      rw [each.cons number, each.cons (number + count), Nat.add_right_comm]
      exact (each.moved number count line).append (inductionHypothesis (number + 1))

/-- Empty lines above have no problems of their own. -/
theorem empty_append (each : LineByLine check) (number count : Nat) (lines : List Text) :
    check number (List.replicate count [] ++ lines) = check (number + count) lines := by
  induction count generalizing number with
  | zero => rfl
  | succ count inductionHypothesis =>
      rw [List.replicate_succ, List.cons_append, each.cons, each.empty, List.nil_append,
        inductionHypothesis, Nat.add_right_comm, Nat.add_assoc]

/-- Empty lines below have no problems. -/
theorem append_empty (each : LineByLine check) (number count : Nat) (lines : List Text) :
    check number (lines ++ List.replicate count []) = check number lines := by
  induction lines generalizing number with
  | nil =>
      have none := each.empty_append number count []
      rw [List.append_nil, each.nil] at none
      rw [List.nil_append, none, each.nil]
  | cons line lines inductionHypothesis =>
      rw [List.cons_append, each.cons, inductionHypothesis, ← each.cons]

end LineByLine

/-- The length of a line is checked line by line, and an empty line is short. -/
theorem LineLength.lineByLine (max : Nat) : LineByLine (checkFrom max) where
  nil _ := rfl
  cons number line lines := by
    simp only [checkFrom]
    split <;> rfl
  moved number count line := by
    simp only [checkFrom]
    split <;> rfl
  empty _ := rfl

/-- Forbidden patterns are checked line by line, and none of them matches an empty line. -/
theorem Forbidden.lineByLine {patterns : List Pattern}
    (plain : ∀ pattern ∈ patterns, pattern.expr.occursIn [] = false) :
    LineByLine (checkFrom patterns) where
  nil _ := rfl
  cons number line lines := by
    simp only [checkFrom]
    split <;> rfl
  moved number count line := by
    simp only [checkFrom]
    split <;> rfl
  empty number := by
    have none : patterns.find? (fun pattern => pattern.expr.occursIn []) = none := by
      rw [List.find?_eq_none]
      intro pattern member
      simp [plain pattern member]
    rw [checkFrom, none]
    rfl

namespace Spacing

/-- The block some lines further down. -/
def Block.moveDown (count : Nat) (block : Block) : Block :=
  { block with lastLine := block.lastLine + count }

/-- The open block moves down with its lines. -/
theorem openAfter_moveDown (current : Option Block) (number count : Nat) (line : Text) :
    openAfter (current.map (Block.moveDown count)) (number + count) line =
      (openAfter current number line).map (Block.moveDown count) := by
  rw [openAfter, openAfter]
  split
  next => cases current <;> rfl
  next => cases Trigger.ofLine? line <;> rfl

/-- A line is too close to a block that moves down if it is too close to the block. -/
theorem crampedBy?_moveDown (minimum count : Nat) (line : Text) (current : Option Block) :
    crampedBy? minimum line (current.map (Block.moveDown count)) =
      (crampedBy? minimum line current).map (Block.moveDown count) := by
  rw [crampedBy?, crampedBy?, Option.filter_map]
  rfl

/-- The check of spacing moves its problems down. The induction is on the lines, for every open
block. -/
theorem checkFrom_movedDown (minimum : Nat) (current : Option Block) (number count : Nat)
    (lines : List Text) :
    MovedDown count (checkFrom minimum current number lines)
      (checkFrom minimum (current.map (Block.moveDown count)) (number + count) lines) := by
  induction lines generalizing current number with
  | nil => exact MovedDown.nil
  | cons line lines inductionHypothesis =>
      rw [checkFrom_cons, checkFrom_cons, crampedBy?_moveDown, openAfter_moveDown,
        Nat.add_right_comm]
      refine MovedDown.append ?_ (inductionHypothesis _ (number + 1))
      cases crampedBy? minimum line current <;> rfl

/-- Empty lines end no block. -/
theorem crampedBy?_empty (minimum : Nat) (current : Option Block) :
    crampedBy? minimum [] current = none := by
  cases current <;> rfl

/-- Empty lines are never too close to a block. -/
theorem checkFrom_empty (minimum : Nat) (current : Option Block) (number count : Nat) :
    checkFrom minimum current number (List.replicate count []) = [] := by
  induction count generalizing current number with
  | zero => rfl
  | succ count inductionHypothesis =>
      rw [List.replicate_succ, checkFrom_cons, crampedBy?_empty, inductionHypothesis]
      rfl

/-- No block is open in front of the first line, so there is nothing to count. -/
theorem checkFrom_empty_append (minimum number count : Nat) (lines : List Text) :
    checkFrom minimum none number (List.replicate count [] ++ lines) =
      checkFrom minimum none (number + count) lines := by
  induction count generalizing number with
  | zero => rfl
  | succ count inductionHypothesis =>
      have unopened : openAfter none number [] = none := rfl
      rw [List.replicate_succ, List.cons_append, checkFrom_cons, crampedBy?_empty, unopened,
        inductionHypothesis, Nat.add_right_comm, Nat.add_assoc]
      rfl

/-- Empty lines below change nothing for spacing. -/
theorem checkFrom_append_empty (minimum : Nat) (current : Option Block) (number count : Nat)
    (lines : List Text) :
    checkFrom minimum current number (lines ++ List.replicate count []) =
      checkFrom minimum current number lines := by
  induction lines generalizing current number with
  | nil => exact checkFrom_empty minimum current number count
  | cons line lines inductionHypothesis =>
      rw [List.cons_append, checkFrom_cons, inductionHypothesis, ← checkFrom_cons]

end Spacing

namespace Ordering

/-- Pairs of neighbours move down together if neither their order nor their kind depends on where
they stand. -/
theorem neighbours_movedDown {value : Type} {count : Nat} {moveDown : value → value}
    {keep : value × value → Bool} {problemOf : value × value → Problem}
    (kept : ∀ pair, keep (Prod.map moveDown moveDown pair) = keep pair)
    (marked : ∀ pair,
      (problemOf (Prod.map moveDown moveDown pair)).mark = (problemOf pair).markBelow count)
    (values : List value) :
    MovedDown count (((neighbours values).filter keep).map problemOf)
      (((neighbours (values.map moveDown)).filter keep).map problemOf) := by
  have same : keep ∘ Prod.map moveDown moveDown = keep := funext kept
  rw [neighbours_map, List.filter_map, same, List.map_map]
  exact MovedDown.map fun pair _ => marked pair

/-- The functions that start a scope are the same after they move down. -/
theorem starters_shift (count : Nat) (functions : List Function) :
    starters (functions.map (Function.shift count)) =
      (starters functions).map (Function.shift count) := by
  have all (last : Option Text) : startersAfter last (functions.map (Function.shift count)) =
      (startersAfter last functions).map (Function.shift count) := by
    induction functions generalizing last with
    | nil => rfl
    | cons function functions inductionHypothesis =>
        have scope : (function.shift count).scope = function.scope := rfl
        rw [List.map_cons, startersAfter, startersAfter, scope, inductionHypothesis,
          inductionHypothesis]
        split <;> rfl
  exact all none

/-- Only the distance between two includes counts. -/
theorem includesOrdered_shift (count : Nat) (first second : Include) :
    includesOrdered (first.shift count) (second.shift count) = includesOrdered first second := by
  have distance : distance (first.line + count) (second.line + count) =
      distance first.line second.line := by
    simp only [Ordering.distance]
    omega
  simp only [includesOrdered, Include.shift, distance]

/-- The order of symbols is checked as before, and the problems move down. -/
theorem checkSymbols_movedDown (config : OrderingConfig) (count : Nat) (symbols : Symbols) :
    MovedDown count (checkSymbols config symbols) (checkSymbols config (symbols.shift count)) := by
  refine ((MovedDown.append ?_ ?_).append ?_).append ?_
  · exact neighbours_movedDown (fun _ => rfl) (fun _ => rfl) symbols.functions
  · rw [unorderedNamespaces, unorderedNamespaces, Symbols.shift, starters_shift]
    exact neighbours_movedDown (fun _ => rfl) (fun _ => rfl) (starters symbols.functions)
  · refine neighbours_movedDown (fun pair => ?_) (fun _ => rfl) symbols.includes
    exact congrArg not (includesOrdered_shift count pair.1 pair.2)
  · exact neighbours_movedDown (fun _ => rfl) (fun _ => rfl) symbols.constants

end Ordering

namespace Documentation

variable {rule : Documentation}

/-- Empty lines come on top of the lines above a function. -/
theorem linesAbove_empty_append (count : Nat) (lines : List Text) {number : Nat}
    (positive : 1 ≤ number) :
    linesAbove (List.replicate count [] ++ lines) (number + count) =
      List.replicate count [] ++ linesAbove lines number := by
  rw [linesAbove, List.take_append, List.length_replicate, linesAbove,
    List.take_of_length_le (by rw [List.length_replicate]; omega),
    show number + count - 1 - count = number - 1 by omega]

/-- The search ends at an empty line as it ends at the top of the file. -/
theorem findStart?_append_empty (noStart : rule.startsBlock [] = false) (above : List Text)
    (count : Nat) :
    rule.findStart? (above ++ List.replicate count []) =
      (rule.findStart? above).map (· + count) := by
  have none : rule.findStart? (List.replicate count []) = none :=
    findStart?_eq_none fun line member => List.eq_of_mem_replicate member ▸ noStart
  by_cases pass : ∀ line ∈ above, rule.passes line = true
  · have noneAbove : rule.findStart? above = .none := by
      apply findStart?_eq_none
      intro line member
      have through := pass line member
      rw [passes, Bool.and_eq_true, Bool.not_eq_true'] at through
      exact through.1
    rw [findStart?_append_passing pass, none, noneAbove]
    rfl
  · rw [findStart?_append_stopping pass, List.length_replicate]

/-- The block of a function moves down with it. -/
theorem blockStart?_empty_append (noStart : rule.startsBlock [] = false) (count : Nat)
    (lines : List Text) {number : Nat} (positive : 1 ≤ number) :
    rule.blockStart? (List.replicate count [] ++ lines) (number + count) =
      (rule.blockStart? lines number).map (· + count) := by
  rw [blockStart?, linesAbove_empty_append count lines positive, List.reverse_append,
    List.reverse_replicate, findStart?_append_empty noStart]
  rfl

/-- The problems of a function move down with it and its block. -/
theorem checkFunction_movedDown (noStart : rule.startsBlock [] = false) (count : Nat)
    (lines : List Text) {function : Function} (positive : 1 ≤ function.line) :
    MovedDown count (rule.checkFunction lines function)
      (rule.checkFunction (List.replicate count [] ++ lines) (function.shift count)) := by
  have moved : rule.blockStart? (List.replicate count [] ++ lines) (function.shift count).line =
      (rule.blockStart? lines function.line).map (· + count) :=
    blockStart?_empty_append noStart count lines positive
  rw [checkFunction, checkFunction, moved]
  cases rule.blockStart? lines function.line with
  | none => rfl
  | some start =>
      have block : (linesAbove (List.replicate count [] ++ lines) (function.shift count).line).drop
          (start + count) = (linesAbove lines function.line).drop start := by
        rw [show (function.shift count).line = function.line + count from rfl,
          linesAbove_empty_append count lines positive, List.drop_append,
          List.drop_of_length_le (by rw [List.length_replicate]; omega), List.length_replicate,
          Nat.add_sub_cancel, List.nil_append]
      simp only [Option.map_some, block]
      exact (MovedDown.map fun _ _ => rfl).append (MovedDown.map fun _ _ => rfl)

/-- Lines below a function have no effect on its problems. -/
theorem checkFunction_append (lines more : List Text) {function : Function}
    (inside : function.line - 1 ≤ lines.length) :
    rule.checkFunction (lines ++ more) function = rule.checkFunction lines function := by
  have above : linesAbove (lines ++ more) function.line = linesAbove lines function.line :=
    List.take_append_of_le_length inside
  rw [checkFunction, checkFunction, blockStart?, blockStart?, above]

end Documentation

namespace Source

/-- The file with empty lines in front of it. -/
def emptyAbove (count : Nat) (source : Source) : Source where
  lines := List.replicate count [] ++ source.lines
  symbols := source.symbols.map (Symbols.shift count)

/-- The file with empty lines at its end. -/
def emptyBelow (count : Nat) (source : Source) : Source where
  lines := source.lines ++ List.replicate count []
  symbols := source.symbols

end Source

namespace Rule

/-- An empty line gives the rule nothing to find: it starts no block and matches no expression. -/
def PassesEmptyLines : Rule → Prop
  | documentation rule => rule.startsBlock [] = false
  | forbidden patterns => ∀ pattern ∈ patterns, pattern.expr.occursIn [] = false
  | _ => True

variable {rule : Rule} {source : Source} {frameworks : List Text}

/-- Every rule that does not notice empty lines moves its problems down. There is one case for each
kind of rule. -/
theorem check_emptyAbove (passes : rule.PassesEmptyLines) (count : Nat)
    (symbols : source.symbols = none ∨
      source.symbols = some (Symbols.ofLines frameworks source.lines)) :
    MovedDown count (rule.check source) (rule.check (source.emptyAbove count)) := by
  cases rule with
  | lineLength max =>
      have each := LineLength.lineByLine max
      have moved := each.movedDown 1 count source.lines
      rwa [← each.empty_append] at moved
  | forbidden patterns =>
      have each := Forbidden.lineByLine passes
      have moved := each.movedDown 1 count source.lines
      rwa [← each.empty_append] at moved
  | spacing minimum =>
      have moved := Spacing.checkFrom_movedDown minimum none 1 count source.lines
      rwa [Option.map_none, ← Spacing.checkFrom_empty_append] at moved
  | ordering config =>
      rw [check, check, Ordering.check, Ordering.check, Source.emptyAbove]
      cases source.symbols with
      | none => exact MovedDown.nil
      | some symbols => exact Ordering.checkSymbols_movedDown config count symbols
  | documentation rule =>
      rw [check, check, Documentation.check, Documentation.check, Source.emptyAbove]
      rcases symbols with none | some
      · rw [none]
        exact MovedDown.nil
      · rw [some]
        simp only [Option.map_some, Symbols.shift, List.flatMap_map]
        refine MovedDown.flatMap fun function member => ?_
        exact Documentation.checkFunction_movedDown passes count source.lines
          (Symbols.le_line_of_mem_functionsFrom member)

/-- A rule that does not notice empty lines finds the same with empty lines below. -/
theorem check_emptyBelow (passes : rule.PassesEmptyLines) (count : Nat)
    (symbols : source.symbols = none ∨
      source.symbols = some (Symbols.ofLines frameworks source.lines)) :
    rule.check (source.emptyBelow count) = rule.check source := by
  cases rule with
  | lineLength max => exact (LineLength.lineByLine max).append_empty 1 count source.lines
  | forbidden patterns => exact (Forbidden.lineByLine passes).append_empty 1 count source.lines
  | spacing minimum => exact Spacing.checkFrom_append_empty minimum none 1 count source.lines
  | ordering config => rfl
  | documentation rule =>
      rw [check, check, Documentation.check, Documentation.check, Source.emptyBelow]
      rcases symbols with none | some
      · rw [none]
      · rw [some]
        refine congrArg List.flatten (List.map_congr_left fun function member => ?_)
        have upper := Symbols.line_lt_of_mem_functionsFrom member
        exact Documentation.checkFunction_append source.lines _ (by omega)

end Rule

end HouseStyle
