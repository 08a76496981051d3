/-
This file proves which block belongs to a function and which problems of the function follow from the
names that the block documents.
-/

import HouseStyle.Proofs.Rule.Block
import HouseStyle.Proofs.Rule.Documented

namespace HouseStyle.Documentation

variable {rule : Documentation} {lines : List Text}

/-- The line with the index `start` opens the block for a declaration on the line with the index
`declaration`. Between the two lines no line is blank and no line opens another block. -/
structure OpensBlock (marker : Text) (lines : List Text) (declaration start : Nat) : Prop where
  above : start < declaration
  opens : ∃ line, lines[start]? = some line ∧ marker <+: Text.trimStart line
  between : ∀ index line, start < index → index < declaration → lines[index]? = some line →
    Text.isBlank line = false ∧ ¬ marker <+: Text.trimStart line

/-- The index of the line with a declaration. A line behind the end of the file is the end. -/
def declarationIndex (lines : List Text) (function : Function) : Nat :=
  min (function.line - 1) lines.length

theorem startsBlock_iff {line : Text} :
    rule.startsBlock line = true ↔ rule.blockStart <+: Text.trimStart line :=
  List.isPrefixOf_iff_prefix

theorem passes_iff {line : Text} :
    rule.passes line = true ↔
      Text.isBlank line = false ∧ ¬ rule.blockStart <+: Text.trimStart line := by
  rw [passes, ← startsBlock_iff, Bool.and_eq_true, Bool.not_eq_true', Bool.not_eq_true', and_comm,
    Bool.not_eq_true]

/-- The search passes some lines and ends at the first one that starts a block. -/
theorem findStart?_eq_some_iff {above : List Text} {start : Nat} :
    rule.findStart? above = some start ↔
      ∃ skipped line others, above = skipped ++ line :: others ∧ others.length = start ∧
        rule.startsBlock line = true ∧ ∀ other ∈ skipped, rule.passes other = true := by
  constructor
  · intro found
    induction above with
    | nil => contradiction
    | cons line above inductionHypothesis =>
        rw [findStart?] at found
        split at found
        next starts =>
          exact ⟨[], line, above, rfl, Option.some.inj found, starts, fun _ member =>
            absurd member List.not_mem_nil⟩
        next noStart =>
          obtain ⟨filled, found⟩ := Option.ite_none_left_eq_some.mp found
          obtain ⟨skipped, opening, others, rfl, size, starts, pass⟩ := inductionHypothesis found
          refine ⟨line :: skipped, opening, others, rfl, size, starts, ?_⟩
          exact List.forall_mem_cons.mpr ⟨by simp [passes, noStart, filled], pass⟩
  · rintro ⟨skipped, line, others, rfl, rfl, starts, pass⟩
    rw [findStart?_append_passing pass, findStart?, if_pos starts]

/-- The search finds the line that opens the block, and no other line. -/
theorem blockStart?_eq_some_iff {function : Function} {start : Nat} :
    rule.blockStart? lines function.line = some start ↔
      OpensBlock rule.blockStart lines (declarationIndex lines function) start := by
  have size : (linesAbove lines function.line).length = declarationIndex lines function :=
    List.length_take
  have inAbove {index : Nat} (above : index < declarationIndex lines function) :
      (linesAbove lines function.line)[index]? = lines[index]? :=
    List.getElem?_take_of_lt (Nat.lt_of_lt_of_le above (Nat.min_le_left _ _))
  rw [blockStart?, findStart?_eq_some_iff]
  constructor
  · rintro ⟨skipped, line, others, reversed, rfl, starts, pass⟩
    have shape : linesAbove lines function.line = others.reverse ++ line :: skipped.reverse := by
      simpa using congrArg List.reverse reversed
    have above : others.length < declarationIndex lines function := by
      rw [← size, shape]
      simp
    refine ⟨above, ⟨line, ?_, startsBlock_iff.mp starts⟩, ?_⟩
    · rw [← inAbove above, shape]
      simp
    · intro index other below inside isLine
      rw [← inAbove inside, shape, List.getElem?_append_right (by simp; omega),
        List.length_reverse, List.getElem?_cons, if_neg (by omega)] at isLine
      exact passes_iff.mp (pass other (List.mem_reverse.mp (List.mem_of_getElem? isLine)))
  · rintro ⟨above, ⟨line, isLine, opens⟩, between⟩
    rw [← inAbove above] at isLine
    obtain ⟨inLines, same⟩ := List.getElem?_eq_some_iff.mp isLine
    refine ⟨((linesAbove lines function.line).drop (start + 1)).reverse, line,
      ((linesAbove lines function.line).take start).reverse, ?_, ?_, startsBlock_iff.mpr opens, ?_⟩
    · have whole := List.take_append_drop start (linesAbove lines function.line)
      rw [List.drop_eq_getElem_cons inLines, same] at whole
      simpa using congrArg List.reverse whole.symm
    · simp [size, Nat.min_eq_left (Nat.le_of_lt above)]
    · intro other member
      obtain ⟨index, isOther⟩ := List.getElem?_of_mem (List.mem_reverse.mp member)
      rw [List.getElem?_drop] at isOther
      have inside := (List.getElem?_eq_some_iff.mp isOther).1
      rw [size] at inside
      rw [inAbove inside] at isOther
      exact passes_iff.mpr (between _ other (by omega) inside isOther)

/-- The names that a block documents, from its first line to the line above the declaration. They
are in order and may occur several times. -/
def blockNames (tag : Text) (lines : List Text) (declaration start : Nat) : List Text :=
  ((lines.take declaration).drop start).flatMap (scan tag)

/-- The documented names of a function are those of its block, each once. -/
theorem documented_linesAbove (marker tag : Text) (function : Function) (start : Nat) :
    documented ⟨marker, tagged tag⟩ ((linesAbove lines function.line).drop start) =
      (blockNames tag lines (declarationIndex lines function) start).eraseDups := by
  rw [documented_tagged, blockNames, declarationIndex, linesAbove, ← List.take_eq_take_min]

/-- At most one line opens a block for a declaration, and the search finds it. Without such a line the
function has one problem. With it, each parameter that the block does not name is a problem, and then
each name of the block that is no parameter, but only once. So the function has no problems if and
only if it has a block that names exactly its parameters. -/
theorem problems_of_nearestBlock (config : DocumentationConfig) (lines : List Text)
    (symbols : Symbols) :
    let opensBlock (function : Function) :=
      OpensBlock (Text.trim config.blockStart) lines (declarationIndex lines function)
    let named (function : Function) :=
      blockNames (Text.trim config.paramTag) lines (declarationIndex lines function)
    ∃ rule, ofConfig config = .ok rule ∧
      rule.check ⟨lines, some symbols⟩ = symbols.functions.flatMap (rule.checkFunction lines) ∧
      ∀ function : Function,
        (∀ start, rule.blockStart? lines function.line = some start ↔ opensBlock function start) ∧
        (∀ start other, opensBlock function start → opensBlock function other → start = other) ∧
        ((∀ start, ¬ opensBlock function start) →
          rule.checkFunction lines function = [missing function]) ∧
        (∀ start, opensBlock function start → ∃ names, AreFirst (named function start) names ∧
          rule.checkFunction lines function =
            (function.parameters.filter fun name => name ∉ named function start).map
                (parameterProblem .undocumentedParameter function) ++
              (names.filter fun name => name ∉ function.parameters).map
                (parameterProblem .unknownDocumentedParameter function)) ∧
        (rule.checkFunction lines function = [] ↔ ∃ start, opensBlock function start ∧
          ∀ name, name ∈ function.parameters ↔ name ∈ named function start) := by
  intro opensBlock named
  refine ⟨_, ofConfig_eq_ok config, rfl, fun function => ?_⟩
  have search (start : Nat) := @blockStart?_eq_some_iff
    ⟨Text.trim config.blockStart, tagged (Text.trim config.paramTag)⟩ lines function start
  refine ⟨search, ?_, ?_, ?_, ?_⟩
  · intro start other isStart isOther
    exact Option.some.inj (((search start).mpr isStart).symm.trans ((search other).mpr isOther))
  · intro none
    rw [checkFunction, Option.eq_none_iff_forall_ne_some.mpr fun start found =>
      none start ((search start).mp found)]
  · intro start isStart
    refine ⟨(named function start).eraseDups, areFirst_eraseDups _, ?_⟩
    rw [checkFunction, (search start).mpr isStart]
    simp only [documented_linesAbove, List.contains_eq_mem, List.mem_eraseDups, decide_not]
    rfl
  · constructor
    · intro clean
      cases found : blockStart? ⟨Text.trim config.blockStart, tagged (Text.trim config.paramTag)⟩
          lines function.line with
      | none =>
          rw [checkFunction, found] at clean
          contradiction
      | some start =>
          rw [checkFunction_eq_nil_iff found, documented_linesAbove] at clean
          simp only [List.mem_eraseDups] at clean
          exact ⟨start, (search start).mp found, clean⟩
    · rintro ⟨start, isStart, same⟩
      rw [checkFunction_eq_nil_iff ((search start).mpr isStart), documented_linesAbove]
      simp only [List.mem_eraseDups]
      exact same

/-- A block that names one of two parameters and, twice, another name. -/
theorem problems_of_nearestBlock_unknown :
    let lines := ["/**".toList, " * @param a the first".toList, " * @param[in] z @param z".toList,
      " */".toList, "void f(int a, int b) \x7b".toList]
    let function : Function :=
      { scope := [], name := ['f'], line := 5, parameters := [['a'], ['b']] }
    let found := [['a'], ['z'], ['z']]
    OpensBlock "/**".toList lines 4 0 ∧ blockNames "@param".toList lines 4 0 = found ∧
      ∃ names, AreFirst found names ∧ standard.checkFunction lines function =
        parameterProblem .undocumentedParameter function ['b'] ::
          (names.filter fun name => name ∉ function.parameters).map
            (parameterProblem .unknownDocumentedParameter function) := by
  intro lines function found
  have opens : OpensBlock "/**".toList lines 4 0 := by
    refine ⟨by decide, ⟨_, rfl, by decide⟩, fun index line above below isLine => ?_⟩
    obtain rfl | rfl | rfl : index = 1 ∨ index = 2 ∨ index = 3 := by omega
    all_goals
      rw [← Option.some.inj isLine]
      decide
  have named : blockNames "@param".toList lines 4 0 = found := by decide +kernel
  obtain ⟨rule, built, -, all⟩ := problems_of_nearestBlock {} lines { functions := [function] }
  obtain rfl : standard = rule := Except.ok.inj (ofConfig_default.symm.trans built)
  obtain ⟨names, areFirst, problems⟩ := (all function).2.2.2.1 0 opens
  change AreFirst (blockNames "@param".toList lines 4 0) names at areFirst
  change _ = (function.parameters.filter fun name =>
    name ∉ blockNames "@param".toList lines 4 0).map _ ++ _ at problems
  rw [named] at areFirst problems
  exact ⟨opens, named, names, areFirst, problems⟩

end HouseStyle.Documentation
