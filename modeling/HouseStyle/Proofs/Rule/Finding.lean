/-
This file proves which problems the rules can find in a file, and from which parts of the file the
details of these problems are written.
-/

import HouseStyle.Proofs.Rule.Ordering
import HouseStyle.Proofs.Rule.Parameter
import HouseStyle.Proofs.Rule.Sequence

namespace HouseStyle

open Documentation (missing parameterProblem)

/-- A problem that a rule can find in a file, with the parts of the file that it shows. -/
inductive Rule.Finds (source : Source) : Rule → Problem → Prop
  | longLine {max : Nat} (number : Nat) {line : Text} (inSource : line ∈ source.lines)
      (tooLong : max < line.length) :
      Finds source (.lineLength max)
        { kind := .longLine, line := number
          detail := lineField number ++ " (".toList ++ Text.ofNat line.length ++
            " characters)".toList }
  | functions {config : OrderingConfig} {symbols : Symbols} {first second : Function}
      (known : source.symbols = some symbols) (inFirst : first ∈ symbols.functions)
      (inSecond : second ∈ symbols.functions) :
      Finds source (.ordering config) (Ordering.functionProblem (first, second))
  | namespaces {config : OrderingConfig} {symbols : Symbols} {first second : Function}
      (known : source.symbols = some symbols) (inFirst : first ∈ symbols.functions)
      (inSecond : second ∈ symbols.functions) :
      Finds source (.ordering config) (Ordering.namespaceProblem (first, second))
  | includes {config : OrderingConfig} {symbols : Symbols} {first second : Include}
      (known : source.symbols = some symbols) (inFirst : first ∈ symbols.includes)
      (inSecond : second ∈ symbols.includes) :
      Finds source (.ordering config) (Ordering.includeProblem (first, second))
  | constants {config : OrderingConfig} {symbols : Symbols} {first second : Constant}
      (known : source.symbols = some symbols) (inFirst : first ∈ symbols.constants)
      (inSecond : second ∈ symbols.constants) :
      Finds source (.ordering config) (Ordering.constantProblem (first, second))
  | cramped {minimum : Nat} {block : Spacing.Block} (few : block.blankLines < minimum) :
      Finds source (.spacing minimum) (Spacing.cramped minimum block)
  | missing {rule : Documentation} {symbols : Symbols} {function : Function}
      (known : source.symbols = some symbols) (declared : function ∈ symbols.functions) :
      Finds source (.documentation rule) (missing function)
  | undocumented {rule : Documentation} {symbols : Symbols} {function : Function} {name : Text}
      (known : source.symbols = some symbols) (declared : function ∈ symbols.functions)
      (isParameter : name ∈ function.parameters) :
      Finds source (.documentation rule) (parameterProblem .undocumentedParameter function name)
  | unknown {rule : Documentation} {symbols : Symbols} {function : Function} {line name : Text}
      (known : source.symbols = some symbols) (declared : function ∈ symbols.functions)
      (inSource : line ∈ source.lines) (captured : name ∈ rule.paramPattern.captures 1 none line) :
      Finds source (.documentation rule)
        (parameterProblem .unknownDocumentedParameter function name)
  | forbidden {patterns : List Forbidden.Pattern} (number : Nat) {line : Text}
      {pattern : Forbidden.Pattern} (inSource : line ∈ source.lines)
      (first : (patterns.find? fun pattern => pattern.expr.occursIn line) = some pattern) :
      Finds source (.forbidden patterns)
        { kind := .forbiddenToken, line := number
          detail := lineField number ++ ' ' :: Text.field 20 pattern.text ++
            ' ' :: Text.trim line }

section Finding

variable {source : Source} {problem : Problem}

/-- A problem of the length of lines is about one of the lines. -/
theorem LineLength.finds_of_mem {max number : Nat} {lines : List Text}
    (inside : ∀ line ∈ lines, line ∈ source.lines) (found : problem ∈ checkFrom max number lines) :
    Rule.Finds source (.lineLength max) problem := by
  induction lines generalizing number with
  | nil => exact absurd found List.not_mem_nil
  | cons line lines inductionHypothesis =>
      obtain ⟨here, later⟩ := List.forall_mem_cons.mp inside
      rw [checkFrom] at found
      split at found
      next tooLong =>
        rcases List.mem_cons.mp found with rfl | below
        · exact .longLine number here tooLong
        · exact inductionHypothesis later below
      next => exact inductionHypothesis later found

/-- A problem of forbidden patterns is about one of the lines and one of the patterns. -/
theorem Forbidden.finds_of_mem {patterns : List Pattern} {number : Nat} {lines : List Text}
    (inside : ∀ line ∈ lines, line ∈ source.lines)
    (found : problem ∈ checkFrom patterns number lines) :
    Rule.Finds source (.forbidden patterns) problem := by
  induction lines generalizing number with
  | nil => exact absurd found List.not_mem_nil
  | cons line lines inductionHypothesis =>
      obtain ⟨here, later⟩ := List.forall_mem_cons.mp inside
      rw [checkFrom] at found
      split at found
      next => exact inductionHypothesis later found
      next pattern first =>
        rcases List.mem_cons.mp found with rfl | below
        · exact .forbidden number here first
        · exact inductionHypothesis later below

/-- A problem of spacing is about two lines. -/
theorem Spacing.finds_of_mem {minimum number : Nat} {current : Option Block} {lines : List Text}
    (found : problem ∈ checkFrom minimum current number lines) :
    Rule.Finds source (.spacing minimum) problem := by
  induction lines generalizing current number with
  | nil => exact absurd found List.not_mem_nil
  | cons line lines inductionHypothesis =>
      rw [checkFrom_cons] at found
      rcases List.mem_append.mp found with here | below
      · obtain ⟨block, ended, rfl⟩ := Option.map_eq_some_iff.mp (Option.mem_toList.mp here)
        obtain ⟨-, conditions⟩ := Option.filter_eq_some_iff.mp ended
        simp only [Bool.and_eq_true, decide_eq_true_eq] at conditions
        exact .cramped conditions.2
      · exact inductionHypothesis below

/-- A problem of the order is about two symbols of the source. -/
theorem Ordering.finds_of_mem {config : OrderingConfig} {symbols : Symbols}
    (known : source.symbols = some symbols) (found : problem ∈ checkSymbols config symbols) :
    Rule.Finds source (.ordering config) problem := by
  have neighbour {value : Type} {values : List value} {keep : value × value → Bool}
      {pair : value × value} (member : pair ∈ (neighbours values).filter keep) :
      pair.1 ∈ values ∧ pair.2 ∈ values := mem_of_mem_neighbours (List.mem_filter.mp member).1
  have starter {function : Function} (member : function ∈ starters symbols.functions) :
      function ∈ symbols.functions := (startersAfter_sublist none _).subset member
  simp only [checkSymbols, List.mem_append, List.mem_map] at found
  rcases found with ((⟨pair, unordered, rfl⟩ | ⟨pair, unordered, rfl⟩) | ⟨pair, unordered, rfl⟩) |
    ⟨pair, unordered, rfl⟩
  · exact .functions known (neighbour unordered).1 (neighbour unordered).2
  · exact .namespaces known (starter (neighbour unordered).1) (starter (neighbour unordered).2)
  · exact .includes known (neighbour unordered).1 (neighbour unordered).2
  · exact .constants known (neighbour unordered).1 (neighbour unordered).2

/-- A problem of documentation is about a function of the source. -/
theorem Documentation.finds_of_mem {rule : Documentation} {symbols : Symbols} {function : Function}
    (known : source.symbols = some symbols) (declared : function ∈ symbols.functions)
    (found : problem ∈ rule.checkFunction source.lines function) :
    Rule.Finds source (.documentation rule) problem := by
  rw [checkFunction] at found
  split at found
  next =>
    obtain rfl := List.mem_singleton.mp found
    exact .missing known declared
  next start _ =>
    rcases List.mem_append.mp found with undocumented | unknown
    · obtain ⟨name, member, rfl⟩ := List.mem_map.mp undocumented
      exact .undocumented known declared (List.mem_filter.mp member).1
    · obtain ⟨name, member, rfl⟩ := List.mem_map.mp unknown
      have documented := List.mem_eraseDups.mp (List.mem_filter.mp member).1
      obtain ⟨line, inBlock, captured⟩ := List.mem_flatMap.mp documented
      exact .unknown known declared (List.mem_of_mem_take (List.mem_of_mem_drop inBlock)) captured

/-- Every problem of a rule has one of the forms. -/
theorem Rule.finds_of_mem_check {rule : Rule} (found : problem ∈ rule.check source) :
    rule.Finds source problem := by
  cases rule with
  | lineLength max => exact LineLength.finds_of_mem (fun _ => id) found
  | ordering config =>
      simp only [Rule.check, Ordering.check] at found
      split at found
      next => exact absurd found List.not_mem_nil
      next symbols known => exact Ordering.finds_of_mem known found
  | spacing minimum => exact Spacing.finds_of_mem found
  | documentation rule =>
      simp only [Rule.check, Documentation.check] at found
      split at found
      next => exact absurd found List.not_mem_nil
      next symbols known =>
        obtain ⟨function, declared, inFunction⟩ := List.mem_flatMap.mp found
        exact Documentation.finds_of_mem known declared inFunction
  | forbidden patterns => exact Forbidden.finds_of_mem (fun _ => id) found

end Finding

end HouseStyle
