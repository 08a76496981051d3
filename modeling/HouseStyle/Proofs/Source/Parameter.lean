/-
This file proves which names are recorded for the parameters of a definition.
-/

import HouseStyle.Proofs.Source.Declaration
import HouseStyle.Proofs.Source.Brackets
import HouseStyle.Proofs.Source.WrappedSignature

namespace HouseStyle.Signature

open Text

/-- The text between the parentheses of a definition. -/
def parameterList (declarations : List Declaration) : Text :=
  List.intercalate [',', ' '] (declarations.map Declaration.text)

/-- A list of parameters has only the characters of its declarations and commas. -/
theorem not_mem_parameterList (declarations : List Declaration) {char : Char}
    (outside : isDeclarationChar char = false) (notComma : char ≠ ',') :
    char ∉ parameterList declarations := by
  intro member
  rcases mem_intercalate member with inSeparator | ⟨text, inTexts, inText⟩
  · simp only [List.mem_cons, notComma, List.not_mem_nil, or_false, false_or] at inSeparator
    rw [inSeparator] at outside
    exact absurd outside (by decide)
  · obtain ⟨declaration, _, rfl⟩ := List.mem_map.mp inTexts
    exact declaration.not_mem_text outside inText

/-- A list of parameters has no white space around it. -/
theorem trim_parameterList (declarations : List Declaration) :
    trim (parameterList declarations) = parameterList declarations := by
  have filled : ∀ text ∈ declarations.map Declaration.text, text ≠ [] := by
    intro text member
    obtain ⟨declaration, _, rfl⟩ := List.mem_map.mp member
    exact declaration.text_ne_nil
  apply trim_eq_self
  · intro char first
    obtain ⟨text, member, same⟩ := head?_intercalate filled first
    obtain ⟨declaration, _, rfl⟩ := List.mem_map.mp member
    exact declaration.text_isTrimmed (Or.inl same)
  · intro char last
    obtain ⟨text, member, same⟩ := getLast?_intercalate filled last
    obtain ⟨declaration, _, rfl⟩ := List.mem_map.mp member
    exact declaration.text_isTrimmed (Or.inr same)

/-- The text of each declaration, with a space in front of it after the first one. -/
def spacedTexts : List Declaration → List Text
  | [] => []
  | first :: others => first.text :: others.map fun declaration => ' ' :: declaration.text

/-- A list of parameters is separated by commas. -/
theorem parameterList_eq_intercalate (declarations : List Declaration) :
    parameterList declarations = List.intercalate [','] (spacedTexts declarations) := by
  cases declarations with
  | nil => rfl
  | cons first others =>
      rw [parameterList, List.map_cons, intercalate_space, List.map_map]
      rfl

/-- Each part of a list is a declaration, perhaps behind a space. -/
theorem eq_text_of_mem_spacedTexts {declarations : List Declaration} {text : Text}
    (member : text ∈ spacedTexts declarations) :
    ∃ declaration : Declaration, text = declaration.text ∨ text = ' ' :: declaration.text := by
  cases declarations with
  | nil => exact absurd member List.not_mem_nil
  | cons first others =>
      rcases List.mem_cons.mp member with rfl | inOthers
      · exact ⟨first, Or.inl rfl⟩
      · obtain ⟨declaration, _, rfl⟩ := List.mem_map.mp inOthers
        exact ⟨declaration, Or.inr rfl⟩

theorem not_mem_spacedText {declarations : List Declaration} {char : Char}
    (outside : isDeclarationChar char = false) :
    ∀ text ∈ spacedTexts declarations, char ∉ text := by
  intro text member
  obtain ⟨declaration, rfl | rfl⟩ := eq_text_of_mem_spacedTexts member
  · exact declaration.not_mem_text outside
  · intro inText
    rcases List.mem_cons.mp inText with rfl | inDeclaration
    · exact absurd outside (by decide)
    · exact declaration.not_mem_text outside inDeclaration

/-- Nothing is left of a default value after it is cut. -/
theorem occurs_sign_spacedText {declarations : List Declaration} :
    ∀ text ∈ spacedTexts declarations, occurs sign (cutDefault text) = false := by
  intro text member
  obtain ⟨declaration, rfl | rfl⟩ := eq_text_of_mem_spacedTexts member
  · rw [declaration.cutDefault_text.1]
    exact declaration.cutDefault_text.2
  · rw [declaration.cutDefault_space_text.1]
    exact declaration.cutDefault_space_text.2

/-- Each part of a list has the name that is recorded for its declaration. -/
theorem filterMap_parameterName?_spacedTexts (declarations : List Declaration) :
    ((spacedTexts declarations).map cutDefault).filterMap parameterName? =
      declarations.map Declaration.recorded := by
  have spaced (declaration : Declaration) :
      parameterName? (cutDefault (' ' :: declaration.text)) = some declaration.recorded := by
    have same := declaration.parameterName?_kept
    rw [parameterName?] at same
    rw [declaration.cutDefault_space_text.1, parameterName?, words_cons_blank (by decide)]
    exact same
  cases declarations with
  | nil => rfl
  | cons first others =>
      rw [spacedTexts, List.map_cons, List.map_map, List.filterMap_cons, first.cutDefault_text.1,
        first.parameterName?_kept]
      induction others with
      | nil => rfl
      | cons second others inductionHypothesis =>
          have later := List.cons.inj inductionHypothesis
          rw [List.map_cons, List.filterMap_cons, Function.comp_apply, spaced second, later.2]
          rfl

/-- Each declaration gives its recorded name. -/
theorem filterMap_parameterName?_simplify (declarations : List Declaration) :
    (List.splitOn ',' (simplify (parameterList declarations))).filterMap parameterName? =
      declarations.map Declaration.recorded := by
  have absent {char : Char} := @not_mem_parameterList declarations char
  have stripped : simplify (parameterList declarations) =
      dropLastDefault (dropInnerDefaults (parameterList declarations)) := by
    simp only [simplify, brackets, trim_parameterList, List.foldl_cons, List.foldl_nil]
    rw [stripSpans_eq_self (absent (by decide) (by decide)),
      stripSpans_eq_self (absent (by decide) (by decide)),
      stripSpans_eq_self (absent (by decide) (by decide))]
  rw [stripped, parameterList_eq_intercalate]
  by_cases filled : spacedTexts declarations = []
  · have none : declarations = [] := by
      cases declarations with
      | nil => rfl
      | cons first others => exact absurd filled (List.cons_ne_nil _ _)
    rw [none]
    rfl
  · rw [splitOn_dropDefaults filled (not_mem_spacedText (by decide))
      (not_mem_spacedText (by decide)) occurs_sign_spacedText]
    exact filterMap_parameterName?_spacedTexts declarations

/-- The text in front of the parameter list. -/
def definitionHead : Text := "void f".toList

/-- The line that defines a function with the declared parameters. -/
def definitionLine (declarations : List Declaration) : Text :=
  definitionHead ++ '(' :: (parameterList declarations ++ [')', ' ', '\x7b'])

/-- The parameter list of a definition is closed on its line. -/
theorem parenthesized?_collect_definitionLine (declarations : List Declaration)
    (lines : List Text) :
    parenthesized? (collect (definitionLine declarations :: lines)) =
      some (parameterList declarations) := by
  have absent {char : Char} := @not_mem_parameterList declarations char
  have inside := IsInside.ofPlain (absent (by decide) (by decide)) (absent (by decide) (by decide))
  have joined : unwrapped (definitionLine declarations :: lines) = definitionHead ++
      '(' :: (parameterList declarations ++ ')' :: (" \x7b".toList ++ joinLines lines)) := by
    rw [definitionLine, unwrapped_append_cons, unwrapped_cons,
      dropEndWhile_append_cons _ _ (by decide)]
    simp [dropEndWhile]
  rw [definitionLine, parenthesized?_collect (by decide) (by decide), ← definitionLine, joined]
  exact parenthesized?_of_isInside (by decide) inside _

/-- The recorded names of a definition do not depend on the lines below it. -/
theorem parameters_definitionLine (declarations : List Declaration) (lines : List Text) :
    parameters (collect (definitionLine declarations :: lines)) =
      declarations.map Declaration.recorded := by
  rw [parameters, parenthesized?_collect_definitionLine]
  exact filterMap_parameterName?_simplify declarations

end HouseStyle.Signature
