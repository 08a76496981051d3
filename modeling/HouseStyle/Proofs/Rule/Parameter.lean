/-
This file proves when a block with a line for each declared parameter documents the parameters that
are recorded for a definition.
-/

import HouseStyle.Proofs.Rule.Block
import HouseStyle.Proofs.Rule.Documented
import HouseStyle.Proofs.Source.Parameter
import HouseStyle.Proofs.Source.WellFormed

namespace HouseStyle

open Signature (Declaration definitionHead definitionLine parameterList)

namespace Definition

theorem dropStandardScope_eq_self {line : Text} (absent : ':' ∉ line) :
    dropStandardScope line = line := by
  fun_induction dropStandardScope line with
  | case1 => rfl
  | case2 rest => simp at absent
  | case3 char rest _ inductionHypothesis =>
      rw [inductionHypothesis fun member => absent (List.mem_cons_of_mem _ member)]

/-- A line without colons has no scope. -/
theorem splitScope?_eq_none {line : Text} (absent : ':' ∉ line) : splitScope? line = none := by
  induction line with
  | nil => rfl
  | cons char rest inductionHypothesis =>
      simp only [List.mem_cons, not_or] at absent
      unfold splitScope?
      rw [inductionHypothesis absent.2]
      split
      next => rfl
      next =>
        dsimp only
        split
        next after => simp at absent
        next => rfl

/-- The line defines the free function with the name `f`. -/
theorem ofLine?_definitionLine (declarations : List Declaration) :
    ofLine? (definitionLine declarations) = some ([], ['f']) := by
  have noColon : ':' ∉ definitionLine declarations := by
    have inList : ':' ∉ parameterList declarations :=
      Signature.not_mem_parameterList declarations (by decide) (by decide)
    have inHead : ':' ∉ definitionHead := by decide
    simp [definitionLine, inList, inHead]
  have candidate : isCandidate (definitionLine declarations) = true := by
    have isHead : head (definitionLine declarations) = definitionHead := by
      rw [head, definitionLine, List.takeWhile_append_of_pos (List.all_eq_true.mp (by decide))]
      simp
    have shape : definitionLine declarations =
        'v' :: ("oid f".toList ++ '(' :: (parameterList declarations ++ [')', ' ', '\x7b'])) := rfl
    rw [shape] at isHead ⊢
    rw [isCandidate, isHead]
    decide
  have cut : Text.cutAt? '(' (definitionLine declarations) =
      some (definitionHead, parameterList declarations ++ [')', ' ', '\x7b']) :=
    Text.cutAt?_append (by decide) _
  rw [ofLine?, if_pos candidate]
  simp only [dropStandardScope_eq_self noColon, scoped?, splitScope?_eq_none noColon, free?, cut]
  rfl

end Definition

/-- The name of a parameter is recorded if and only if spaces stand around its equals sign. -/
theorem Signature.Declaration.recorded_eq_name_iff (declaration : Declaration) :
    declaration.recorded = declaration.name ↔ declaration.isSeparated = true := by
  have noSign : '=' ∉ declaration.name := Text.not_mem_of_isWord (by decide) declaration.nameIsWord
  have notName {text : Text} (member : '=' ∈ text) : text ≠ declaration.name := by
    rintro rfl
    exact noSign member
  cases given : declaration.default with
  | none => simp [recorded, isSeparated, given]
  | some default =>
      obtain ⟨before, after, value, valueIsWord⟩ := default
      cases before with
      | zero =>
          cases after with
          | zero => simp [recorded, isSeparated, given]
          | succ after => simp [recorded, isSeparated, given]
      | succ before =>
          cases after with
          | zero => simpa [recorded, isSeparated, given] using notName List.mem_cons_self
          | succ after => simp [recorded, isSeparated, given]

namespace Documentation

variable {rule : Documentation}

/-- A line that documents a parameter. -/
def parameterLine (name : Text) : Text :=
  " * ".toList ++ ("@param".toList ++ ' ' :: name)

/-- A block with one line for each name. -/
def block (names : List Text) : List Text :=
  "/**".toList :: (names.map parameterLine ++ [" */".toList])

/-- The tag of the default configuration begins with the first character. -/
def tagRest : Text := "param".toList

/-- A line with a tag and an identifier documents the identifier. -/
theorem scan_parameterLine {name : Text} (identifier : Text.isIdentifier name = true) :
    scan ('@' :: tagRest) (parameterLine name) = [name] := by
  have found : mention? ('@' :: tagRest) ('@' :: tagRest ++ ' ' :: name) = some (name, []) := by
    refine mention?_eq_some_iff.mpr ⟨[], [' '], name, rfl, Or.inl rfl, List.cons_ne_nil _ _,
      List.forall_mem_singleton.mpr rfl, (List.append_nil name).symm, identifier, by simp⟩
  calc
    scan ('@' :: tagRest) (parameterLine name) =
        scan ('@' :: tagRest) ('@' :: tagRest ++ ' ' :: name) := scan_append tagRest (by decide) _
    _ = [name] := by rw [scan_of_mention found, scan_nil]

/-- A block with one line for each name documents all of them. -/
theorem documented_block {names : List Text}
    (identifiers : ∀ name ∈ names, Text.isIdentifier name = true) :
    standard.documented (block names) = names.eraseDups := by
  have found : (names.map parameterLine).flatMap (scan ('@' :: tagRest)) = names := by
    induction names with
    | nil => rfl
    | cons name names inductionHypothesis =>
        have later := inductionHypothesis fun other member =>
          identifiers other (List.mem_cons_of_mem _ member)
        rw [List.map_cons, List.flatMap_cons, later,
          scan_parameterLine (identifiers name List.mem_cons_self)]
        rfl
  have first : scan ('@' :: tagRest) "/**".toList = [] := scan_eq_nil tagRest (by decide)
  have last : scan ('@' :: tagRest) " */".toList = [] := scan_eq_nil tagRest (by decide)
  have inBlock : (block names).flatMap (scan ('@' :: tagRest)) = names := by
    rw [block, List.flatMap_cons, List.flatMap_append, List.flatMap_singleton, found, first, last,
      List.nil_append, List.append_nil]
  rw [standard, documented_tagged]
  exact congrArg List.eraseDups inBlock

/-- The search starts at the line below the block and ends at its first line. -/
theorem blockStart?_block (names : List Text) (above below : List Text) :
    standard.blockStart? (above ++ block names ++ below) (above.length + (block names).length + 1) =
      some above.length := by
  let inner := " */".toList :: (names.map parameterLine).reverse
  have pass : ∀ line ∈ inner, standard.passes line = true := by
    intro line member
    rcases List.mem_cons.mp member with rfl | inLines
    · decide
    · obtain ⟨name, _, rfl⟩ := List.mem_map.mp (List.mem_reverse.mp inLines)
      rfl
  have shape : (linesAbove (above ++ block names ++ below)
      (above.length + (block names).length + 1)).reverse =
        inner ++ "/**".toList :: above.reverse := by
    have taken : linesAbove (above ++ block names ++ below)
        (above.length + (block names).length + 1) = above ++ block names := by
      rw [linesAbove, Nat.add_sub_cancel]
      exact List.take_left' (by rw [List.length_append])
    rw [taken]
    simp [block, inner]
  have starts : standard.startsBlock "/**".toList = true := by decide
  rw [blockStart?, shape, findStart?_append_passing pass, findStart?, if_pos starts,
    List.length_reverse]

/-- A definition stands below a block that documents its declared parameters. The names that the
definition records are the declared ones if and only if every default value is separated from the
name in front of it. The block documents the definition without problems if and only if these are
the same names up to their order. -/
theorem recordsDeclared_iff_isSeparated (frameworks above below : List Text)
    (declarations : List Declaration) :
    let names := declarations.map Declaration.name
    let lines := above ++ block names ++ definitionLine declarations :: below
    let function : Function :=
      { scope := []
        name := ['f']
        line := above.length + (block names).length + 1
        parameters := declarations.map Declaration.recorded }
    function ∈ (Symbols.ofLines frameworks lines).functions ∧
      (function.parameters = names ↔
        ∀ declaration ∈ declarations, declaration.isSeparated = true) ∧
      ∃ rule, ofConfig {} = .ok rule ∧ (rule.checkFunction lines function = [] ↔
        ∀ name, name ∈ function.parameters ↔ name ∈ names) := by
  intro names lines function
  have identifiers : ∀ name ∈ names, Text.isIdentifier name = true := by
    intro name member
    obtain ⟨declaration, _, rfl⟩ := List.mem_map.mp member
    exact declaration.nameIsIdentifier
  refine ⟨?_, ?_, standard, ofConfig_default, ?_⟩
  · apply Symbols.mem_functionsFrom_append
    rw [Symbols.functionsFrom, Definition.ofLine?_definitionLine,
      Signature.parameters_definitionLine, List.length_append, Nat.add_comm 1]
    exact List.mem_cons_self
  · rw [List.map_inj_left]
    constructor
    · intro same declaration member
      exact declaration.recorded_eq_name_iff.mp (same declaration member)
    · intro separated declaration member
      exact declaration.recorded_eq_name_iff.mpr (separated declaration member)
  · have found : standard.blockStart? lines function.line = some above.length :=
      blockStart?_block names above (definitionLine declarations :: below)
    have inBlock : (linesAbove lines function.line).drop above.length = block names := by
      rw [linesAbove, Nat.add_sub_cancel, List.take_left' (by rw [List.length_append])]
      exact List.drop_left
    rw [checkFunction_eq_nil_iff found, inBlock, documented_block identifiers]
    simp only [List.mem_eraseDups]

/-- A default value without spaces becomes a part of the recorded name. -/
theorem parameters_narrowDefault :
    let declaration : Declaration :=
      { type := "int".toList
        name := ['x']
        default := some { before := 0, after := 0, value := ['5'], valueIsWord := by decide }
        typeIsWord := by decide
        nameIsIdentifier := by decide }
    definitionLine [declaration] = "void f(int x=5) \x7b".toList ∧
      Signature.parameters (Signature.collect [definitionLine [declaration]]) =
        ["x=5".toList] := by
  decide

end Documentation

end HouseStyle
