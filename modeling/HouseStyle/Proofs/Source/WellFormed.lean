/-
This file proves what holds of the symbols of every file, whatever its text is: where they stand and
which characters their names have.
-/

import HouseStyle.Proofs.Source.Composition

namespace HouseStyle

namespace Signature

/-- A parameter name is a word without commas that starts with no sign of references and pointers. -/
structure IsName (name : Text) : Prop where
  filled : name ≠ []
  plain : ∀ char ∈ name, Text.isBlankChar char = false ∧ char ≠ ','
  noSign : name.head? ≠ some '&' ∧ name.head? ≠ some '*'

/-- The name that is found in a declaration is a proper name. -/
theorem isName_of_parameterName? {declaration name : Text} (noComma : ',' ∉ declaration)
    (found : parameterName? declaration = some name) : IsName name := by
  rw [parameterName?] at found
  split at found
  next => contradiction
  next => contradiction
  next first second others shape =>
    have last : (second :: others).getLast?.getD first ∈ Text.words declaration := by
      rw [shape, List.getLast?_eq_some_getLast (List.cons_ne_nil _ _)]
      exact List.mem_cons_of_mem _ (List.getLast_mem _)
    obtain ⟨-, word⟩ := Text.mem_words last
    obtain ⟨filled, same⟩ := Option.ite_none_left_eq_some.mp found
    obtain rfl := Option.some.inj same
    refine ⟨by simpa using filled, ?_, ?_⟩
    · intro char member
      have inWord := word char ((List.dropWhile_sublist _).subset member)
      exact ⟨inWord.1, fun same => noComma (same ▸ inWord.2)⟩
    · have signs := List.head?_dropWhile_not (fun char => char == '&' || char == '*')
        ((second :: others).getLast?.getD first)
      constructor <;> intro same <;> simp [same] at signs

/-- All recorded parameters have proper names. -/
theorem isName_of_mem_parameters {signature name : Text} (member : name ∈ parameters signature) :
    IsName name := by
  rw [parameters] at member
  split at member
  next => exact absurd member List.not_mem_nil
  next =>
    obtain ⟨declaration, isPiece, found⟩ := List.mem_filterMap.mp member
    exact isName_of_parameterName? (Text.not_mem_of_mem_splitOn isPiece) found

end Signature

namespace Definition

/-- A name that is called has no parenthesis. -/
theorem not_mem_of_nameBefore? {text name : Text} (found : nameBefore? text = some name) :
    '(' ∉ name := by
  rw [nameBefore?] at found
  split at found
  next cut =>
    obtain rfl := Option.some.inj found
    exact (Text.cutAt?_spec cut).2
  next => contradiction

/-- A name behind a scope has no parenthesis. -/
theorem not_mem_of_splitScope? {line qualifier name : Text}
    (found : splitScope? line = some (qualifier, name)) : '(' ∉ name := by
  induction line generalizing qualifier with
  | nil => contradiction
  | cons char rest inductionHypothesis =>
      unfold splitScope? at found
      split at found
      next => contradiction
      next =>
        split at found
        next later =>
          obtain ⟨rfl, rfl⟩ := Prod.mk.inj (Option.some.inj found)
          exact inductionHypothesis later
        next =>
          split at found
          next after =>
            obtain ⟨_, before, same⟩ := Option.map_eq_some_iff.mp found
            obtain ⟨rfl, rfl⟩ := Prod.mk.inj same
            exact not_mem_of_nameBefore? before
          next => contradiction

/-- The text after the last space is part of the text. -/
theorem mem_of_afterLastSpace? {text name : Text} (found : afterLastSpace? text = some name)
    {char : Char} (member : char ∈ name) : char ∈ text := by
  induction text generalizing name with
  | nil => contradiction
  | cons first rest inductionHypothesis =>
      unfold afterLastSpace? at found
      split at found
      next later =>
        obtain rfl := Option.some.inj found
        exact List.mem_cons_of_mem _ (inductionHypothesis later member)
      next =>
        split at found
        next =>
          obtain rfl := Option.some.inj found
          simp [member]
        next => contradiction

/-- The scope and the name that a line can declare. -/
structure IsDeclared (scope name : Text) : Prop where
  plainScope : '&' ∉ scope ∧ '*' ∉ scope ∧ ' ' ∉ scope
  trimmed : Text.trim name = name
  noParenthesis : '(' ∉ name

/-- A scope has no spaces and no signs of references and pointers. -/
theorem plain_scopeOf (qualifier : Text) :
    '&' ∉ scopeOf qualifier ∧ '*' ∉ scopeOf qualifier ∧ ' ' ∉ scopeOf qualifier := by
  have filled := List.splitOn_ne_nil ' '
    ((Text.trim qualifier).filter fun char => char != '&' && char != '*')
  have isPiece : scopeOf qualifier ∈ List.splitOn ' '
      ((Text.trim qualifier).filter fun char => char != '&' && char != '*') := by
    rw [scopeOf, List.getLast?_eq_some_getLast filled]
    exact List.getLast_mem filled
  have kept {char : Char} (member : char ∈ scopeOf qualifier) : (char != '&' && char != '*') = true :=
    (List.mem_filter.mp (Text.mem_of_mem_splitOn isPiece member)).2
  exact ⟨fun sign => absurd (kept sign) (by decide), fun sign => absurd (kept sign) (by decide),
    Text.not_mem_of_mem_splitOn isPiece⟩

theorem isDeclared_of_scoped? {line scope name : Text} (found : scoped? line = some (scope, name)) :
    IsDeclared scope name := by
  obtain ⟨⟨qualifier, untrimmed⟩, split, same⟩ := Option.map_eq_some_iff.mp found
  obtain ⟨rfl, rfl⟩ := Prod.mk.inj same
  exact ⟨plain_scopeOf qualifier, Text.trim_trim untrimmed,
    fun member => not_mem_of_splitScope? split (Text.mem_of_mem_trim member)⟩

theorem isDeclared_of_free? {line scope name : Text} (found : free? line = some (scope, name)) :
    IsDeclared scope name := by
  obtain ⟨⟨head, tail⟩, cut, later⟩ := Option.bind_eq_some_iff.mp found
  obtain ⟨untrimmed, last, same⟩ := Option.map_eq_some_iff.mp later
  obtain ⟨rfl, rfl⟩ := Prod.mk.inj same
  refine ⟨by simp, Text.trim_trim untrimmed, fun member => (Text.cutAt?_spec cut).2 ?_⟩
  exact mem_of_afterLastSpace? last (Text.mem_of_mem_trim member)

/-- A line that declares a function starts at the first column with no directive and no comment. -/
theorem plainStart_of_isCandidate {line : Text} (candidate : isCandidate line = true) :
    ∃ first rest, line = first :: rest ∧
      Text.isBlankChar first = false ∧ first ≠ '#' ∧ first ≠ '/' := by
  cases line with
  | nil => contradiction
  | cons first rest =>
      simp only [isCandidate, Bool.and_eq_true, Bool.not_eq_true', Bool.or_eq_false_iff,
        beq_eq_false_iff_ne] at candidate
      obtain ⟨⟨⟨notBlank, noDirective⟩, noComment⟩, -⟩ := candidate
      exact ⟨first, rest, rfl, notBlank, noDirective, noComment⟩

/-- A function that is found on a line is a candidate with a name. -/
theorem ofLine?_eq_some {line scope name : Text} (found : ofLine? line = some (scope, name)) :
    isCandidate line = true ∧ name ≠ [] ∧ IsDeclared scope name := by
  rw [ofLine?] at found
  split at found
  next candidate =>
    obtain ⟨declared, filled⟩ := Option.filter_eq_some_iff.mp found
    refine ⟨candidate, by simpa using filled, ?_⟩
    cases method : scoped? (dropStandardScope line) with
    | some parts =>
        rw [method] at declared
        obtain rfl := Option.some.inj declared
        exact isDeclared_of_scoped? method
    | none =>
        rw [method] at declared
        exact isDeclared_of_free? declared
  next => contradiction

end Definition

/-- The function can be declared on the line. -/
structure Function.WellFormed (line : Text) (function : Function) : Prop where
  parenthesis : '(' ∈ line
  start : ∃ first rest, line = first :: rest ∧
    Text.isBlankChar first = false ∧ first ≠ '#' ∧ first ≠ '/'
  named : function.name ≠ []
  trimmed : Text.trim function.name = function.name
  noParenthesis : '(' ∉ function.name
  scope : '&' ∉ function.scope ∧ '*' ∉ function.scope ∧ ' ' ∉ function.scope
  parameters : ∀ name ∈ function.parameters, Signature.IsName name

/-- The target of an include has no white space around it. -/
theorem Include.trim_target {line target : Text} (found : target? line = some target) :
    Text.trim target = target := by
  rw [target?] at found
  split at found
  next => contradiction
  next =>
    split at found
    next => contradiction
    next =>
      obtain rfl := Option.some.inj found
      exact Text.trim_trim _

namespace Constant

/-- A name in capital letters, which may have underscores and, after its first character, digits. -/
def IsName : Text → Prop
  | [] => False
  | first :: rest => isNameStart first = true ∧ ∀ char ∈ rest, isNamePart char = true

/-- What is taken as a name is one. -/
theorem isName_of_splitName? {text name tail : Text} (found : splitName? text = some (name, tail)) :
    IsName name := by
  cases text with
  | nil => contradiction
  | cons first rest =>
      rw [splitName?] at found
      split at found
      next start =>
        obtain ⟨rfl, -⟩ := Prod.mk.inj (Option.some.inj found)
        exact ⟨start, List.all_eq_true.mp List.all_takeWhile⟩
      next => contradiction

/-- A namespace that is opened has a proper name. -/
theorem isName_of_opener? {line name : Text} (found : opener? line = some name) : IsName name := by
  rw [opener?] at found
  split at found
  next split =>
    obtain rfl := Option.some.inj found
    obtain ⟨rest, -, isName⟩ := Option.bind_eq_some_iff.mp split
    exact isName_of_splitName? isName
  next split =>
    obtain rfl := Option.some.inj found
    obtain ⟨rest, -, isName⟩ := Option.bind_eq_some_iff.mp split
    exact isName_of_splitName? isName
  next => contradiction

/-- A declared constant has a proper name. -/
theorem isName_of_declared? {text name : Text} (found : declared? text = some name) :
    IsName name := by
  induction text with
  | nil => contradiction
  | cons char rest inductionHypothesis =>
      unfold declared? at found
      split at found
      next => contradiction
      next =>
        split at found
        next later =>
          obtain rfl := Option.some.inj found
          exact inductionHypothesis later
        next =>
          split at found
          next =>
            split at found
            next split =>
              obtain ⟨-, same⟩ := Option.ite_none_right_eq_some.mp found
              obtain rfl := Option.some.inj same
              exact isName_of_splitName? split
            next => contradiction
          next => contradiction

/-- A constant that is found on a line has a proper name. -/
theorem isName_of_name? {line name : Text} (found : name? line = some name) : IsName name := by
  induction line with
  | nil => contradiction
  | cons char rest inductionHypothesis =>
      rw [name?] at found
      split at found
      next later =>
        obtain rfl := Option.some.inj found
        obtain ⟨-, later⟩ := Option.ite_none_left_eq_some.mp later
        exact inductionHypothesis later
      next =>
        obtain ⟨after, -, declared⟩ := Option.bind_eq_some_iff.mp found
        exact isName_of_declared? declared

/-- The constant can be declared on the line. -/
structure WellFormed (line : Text) (constant : Constant) : Prop where
  notClosing : line.head? ≠ some '\x7d'
  name : IsName constant.name
  scope : IsName constant.scope

/-- The namespace that is open after some lines was opened by one of them. -/
theorem isName_of_foldl_scopeAfter {lines : List Text} {scope : Option Text}
    (started : ∀ name ∈ scope, IsName name) : ∀ name ∈ lines.foldl scopeAfter scope, IsName name := by
  induction lines generalizing scope with
  | nil => exact started
  | cons line lines inductionHypothesis =>
      refine inductionHypothesis fun name member => ?_
      rw [scopeAfter] at member
      split at member
      next opened =>
        obtain rfl := Option.mem_some_iff.mp member
        exact isName_of_opener? opened
      next =>
        split at member
        next => contradiction
        next => exact started name member

theorem line_of_onLine? {scope : Option Text} {number : Nat} {line : Text} {constant : Constant}
    (found : onLine? scope number line = some constant) : constant.line = number := by
  obtain ⟨-, inside⟩ := Option.ite_none_right_eq_some.mp found
  obtain ⟨_, -, declared⟩ := Option.bind_eq_some_iff.mp inside
  obtain ⟨_, -, rfl⟩ := Option.map_eq_some_iff.mp declared
  rfl

/-- A constant of a line is well-formed if its scope is. -/
theorem wellFormed_of_onLine? {scope : Option Text} (opened : ∀ name ∈ scope, IsName name)
    {number : Nat} {line : Text} {constant : Constant}
    (found : onLine? scope number line = some constant) : constant.WellFormed line := by
  obtain ⟨conditions, inside⟩ := Option.ite_none_right_eq_some.mp found
  obtain ⟨namespaceName, isOpen, declared⟩ := Option.bind_eq_some_iff.mp inside
  obtain ⟨name, isDeclared, rfl⟩ := Option.map_eq_some_iff.mp declared
  simp only [Bool.and_eq_true, bne_iff_ne] at conditions
  exact ⟨conditions.2, isName_of_name? isDeclared, opened _ isOpen⟩

end Constant

namespace Symbols

/-- A line of the rest of a file is a line of the file. -/
theorem exists_line_cons {holds : Nat → Text → Prop} {first : Text} {lines : List Text}
    {number place : Nat}
    (later : ∃ index line, lines[index]? = some line ∧ place = number + 1 + index ∧
      holds (index + 1) line) :
    ∃ index line, (first :: lines)[index]? = some line ∧ place = number + index ∧
      holds index line := by
  obtain ⟨index, line, isLine, sum, found⟩ := later
  exact ⟨index + 1, line, isLine, by omega, found⟩

/-- Everything about a function comes from the line of its declaration and the lines below. -/
theorem exists_line_of_mem_functionsFrom {number : Nat} {lines : List Text} {function : Function}
    (member : function ∈ functionsFrom number lines) :
    ∃ index line, lines[index]? = some line ∧ function.line = number + index ∧
      Definition.ofLine? line = some (function.scope, function.name) ∧
      function.parameters = Signature.parametersAt lines index := by
  induction lines generalizing number with
  | nil => exact absurd member List.not_mem_nil
  | cons line lines inductionHypothesis =>
      rw [functionsFrom] at member
      split at member
      next => exact exists_line_cons (inductionHypothesis member)
      next declared =>
        rcases List.mem_cons.mp member with rfl | later
        · exact ⟨0, line, rfl, rfl, declared, rfl⟩
        · exact exists_line_cons (inductionHypothesis later)

/-- A function of some lines stays when there are lines above. -/
theorem mem_functionsFrom_append {number : Nat} (first : List Text) {second : List Text}
    {function : Function} (member : function ∈ functionsFrom (number + first.length) second) :
    function ∈ functionsFrom number (first ++ second) := by
  induction first generalizing number with
  | nil => exact member
  | cons line first inductionHypothesis =>
      have later : function ∈ functionsFrom (number + 1) (first ++ second) := by
        apply inductionHypothesis
        rw [List.length_cons] at member
        rw [show number + 1 + first.length = number + (first.length + 1) by omega]
        exact member
      rw [List.cons_append, functionsFrom]
      split
      next => exact later
      next => exact List.mem_cons_of_mem _ later

/-- An include has its target from its own line. -/
theorem exists_line_of_mem_includesFrom {frameworks : List Text} {number : Nat} {lines : List Text}
    {directive : Include} (member : directive ∈ includesFrom frameworks number lines) :
    ∃ index line, lines[index]? = some line ∧ directive.line = number + index ∧
      Include.target? line = some directive.target := by
  induction lines generalizing number with
  | nil => exact absurd member List.not_mem_nil
  | cons line lines inductionHypothesis =>
      rw [includesFrom] at member
      split at member
      next => exact exists_line_cons (inductionHypothesis member)
      next declared =>
        rcases List.mem_cons.mp member with rfl | later
        · obtain ⟨-, target⟩ := Option.ite_none_left_eq_some.mp declared
          exact ⟨0, line, rfl, rfl, target⟩
        · exact exists_line_cons (inductionHypothesis later)

/-- A constant comes from its line and the namespace that is open after the lines above. -/
theorem exists_line_of_mem_constantsFrom {scope : Option Text} {number : Nat} {lines : List Text}
    {constant : Constant} (member : constant ∈ constantsFrom scope number lines) :
    ∃ index line, lines[index]? = some line ∧
      Constant.onLine? ((lines.take index).foldl Constant.scopeAfter scope) (number + index) line =
        some constant := by
  induction lines generalizing scope number with
  | nil => exact absurd member List.not_mem_nil
  | cons line lines inductionHypothesis =>
      rw [constantsFrom_cons] at member
      rcases List.mem_append.mp member with here | later
      · exact ⟨0, line, rfl, Option.mem_toList.mp here⟩
      · obtain ⟨index, found, isLine, declared⟩ := inductionHypothesis later
        refine ⟨index + 1, found, isLine, ?_⟩
        rw [List.take_succ_cons, List.foldl_cons, show number + (index + 1) = number + 1 + index by
          omega]
        exact declared

/-- The symbols can come from the lines of a file. -/
structure WellFormed (lines : List Text) (symbols : Symbols) : Prop where
  functionLines : Ascending 1 (1 + lines.length) (symbols.functions.map Function.line)
  includeLines : Ascending 1 (1 + lines.length) (symbols.includes.map Include.line)
  constantLines : Ascending 1 (1 + lines.length) (symbols.constants.map Constant.line)
  functions : ∀ function ∈ symbols.functions,
    ∃ line, lines[function.line - 1]? = some line ∧ function.WellFormed line
  includes : ∀ directive ∈ symbols.includes, Text.trim directive.target = directive.target
  constants : ∀ constant ∈ symbols.constants,
    ∃ line, lines[constant.line - 1]? = some line ∧ constant.WellFormed line

/-- The symbols of every text can come from its lines. -/
theorem ofText_wellFormed (frameworks : List Text) (text : Text) :
    (ofText frameworks text).WellFormed (Text.lines text) where
  functionLines := functionsFrom_ascending 1 _
  includeLines := includesFrom_ascending frameworks 1 _
  constantLines := constantsFrom_ascending none 1 _
  functions := by
    intro function member
    obtain ⟨index, line, isLine, sum, found, parameters⟩ := exists_line_of_mem_functionsFrom member
    obtain ⟨candidate, named, declared⟩ := Definition.ofLine?_eq_some found
    refine ⟨line, by rw [sum, Nat.add_sub_cancel_left]; exact isLine, ?_⟩
    exact { parenthesis := Definition.mem_of_ofLine? found
            start := Definition.plainStart_of_isCandidate candidate
            named
            trimmed := declared.trimmed
            noParenthesis := declared.noParenthesis
            scope := declared.plainScope
            parameters := fun name member =>
              Signature.isName_of_mem_parameters (parameters ▸ member) }
  includes := by
    intro directive member
    obtain ⟨_, line, _, _, target⟩ := exists_line_of_mem_includesFrom member
    exact Include.trim_target target
  constants := by
    intro constant member
    obtain ⟨index, line, isLine, declared⟩ := exists_line_of_mem_constantsFrom member
    have opened := @Constant.isName_of_foldl_scopeAfter ((Text.lines text).take index) none (by simp)
    refine ⟨line, ?_, Constant.wellFormed_of_onLine? opened declared⟩
    rw [Constant.line_of_onLine? declared, Nat.add_sub_cancel_left]
    exact isLine

end Symbols

end HouseStyle
