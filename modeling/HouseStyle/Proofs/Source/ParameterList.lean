/-
This file proves that the names of all parameters are found, however the brackets of their types and
array lengths are nested.
-/

import HouseStyle.Proofs.Text.Words
import HouseStyle.Proofs.Source.Declaration
import HouseStyle.Proofs.Source.Brackets

namespace HouseStyle.Signature

open Text

/-- A parameter without a default value: a type, signs of references and pointers, an identifier and
the lengths of arrays. `typeOuter` is what stands outside the brackets of the type. -/
structure BracketedParameter where
  indent : Text
  type : Text
  typeOuter : Text
  gap : Text
  marks : Text
  name : Text
  lengths : List Text
  trail : Text
  indentIsBlank : isBlank indent = true
  typeIsNested : Nested brackets type typeOuter
  typeIsFilled : isBlank typeOuter = false
  noComma : ',' ∉ typeOuter
  noSignInType : '=' ∉ type
  gapIsBlank : isBlank gap = true
  gapIsFilled : gap ≠ []
  areMarks : ∀ char ∈ marks, char = '&' ∨ char = '*'
  nameIsIdentifier : isIdentifier name = true
  lengthsAreNested : ∀ length ∈ lengths, ∃ outer, Nested brackets length outer
  noSignInLengths : ∀ length ∈ lengths, '=' ∉ length
  trailIsBlank : isBlank trail = true

/-- A text is nested if its characters have a property that no bracket has. -/
theorem nested_of_all {text : Text} {inside : Char → Bool} (all : ∀ char ∈ text, inside char = true)
    (apart : ['<', '>', '[', ']', '(', ')'].any inside = false) : Nested brackets text text := by
  have absent : ∀ char ∈ ['<', '>', '[', ']', '(', ')'], char ∉ text := fun char member inText =>
    List.any_eq_false.mp apart char member (all char inText)
  apply Nested.ofPlain
  intro char member
  apply isBracket_eq_false_iff.mpr
  intro kind isKind
  simp only [brackets, List.mem_cons, List.not_mem_nil, or_false] at isKind
  constructor
  · rintro rfl
    exact absent kind.1 (by rcases isKind with rfl | rfl | rfl <;> decide) member
  · rintro rfl
    exact absent kind.2 (by rcases isKind with rfl | rfl | rfl <;> decide) member

/-- Declarations that are nested on their own are nested with commas between them. -/
theorem nested_intercalate {declaration : Type} {text outer : declaration → Text}
    (nested : ∀ parameter, Nested brackets (text parameter) (outer parameter))
    (list : List declaration) :
    Nested brackets (List.intercalate [','] (list.map text))
      (List.intercalate [','] (list.map outer)) := by
  induction list with
  | nil => exact .nil
  | cons parameter others inductionHypothesis =>
      cases others with
      | nil => simpa using nested parameter
      | cons second others =>
          have comma : Nested brackets [','] [','] := .plain (by decide)
          simp only [List.map_cons, List.intercalate_cons_cons]
          exact ((nested parameter).append comma).append inductionHypothesis

namespace BracketedParameter

/-- The length of an array in its brackets. -/
def suffix (length : Text) : Text :=
  '[' :: (length ++ [']'])

/-- Lengths of arrays are inside brackets. -/
theorem nested_suffixes {lengths : List Text}
    (nested : ∀ length ∈ lengths, ∃ outer, Nested brackets length outer) :
    Nested brackets (lengths.flatMap suffix) [] := by
  induction lengths with
  | nil => exact .nil
  | cons length lengths inductionHypothesis =>
      obtain ⟨⟨outer, inside⟩, later⟩ := List.forall_mem_cons.mp nested
      exact (Nested.span (by decide) inside).append (inductionHypothesis later)

variable (parameter : BracketedParameter)

def text : Text :=
  parameter.indent ++ parameter.type ++ parameter.gap ++ parameter.marks ++ parameter.name ++
    parameter.lengths.flatMap suffix ++ parameter.trail

/-- The declaration without its bracketed parts. -/
def outer : Text :=
  parameter.indent ++ parameter.typeOuter ++ parameter.gap ++ parameter.marks ++ parameter.name ++
    parameter.trail

theorem nameIsWord : isWord parameter.name = true :=
  isWord_of_isIdentifier parameter.nameIsIdentifier

theorem not_mem_marks {char : Char} (other : char ≠ '&' ∧ char ≠ '*') :
    char ∉ parameter.marks := fun member =>
  (parameter.areMarks char member).elim other.1 other.2

theorem all_marks : ∀ char ∈ parameter.marks, (char == '&' || char == '*') = true := by
  intro char member
  simpa using parameter.areMarks char member

/-- The brackets of a parameter are nested, with its name outside. -/
theorem nested_text : Nested brackets parameter.text parameter.outer := by
  have ofBlank {blank : Text} (all : isBlank blank = true) : Nested brackets blank blank :=
    nested_of_all (List.all_eq_true.mp all) (by decide)
  have marks : Nested brackets parameter.marks parameter.marks :=
    nested_of_all parameter.all_marks (by decide)
  have name : Nested brackets parameter.name parameter.name :=
    nested_of_all (isNameChar_of_isWord parameter.nameIsWord) (by decide)
  have whole := ((((((ofBlank parameter.indentIsBlank).append parameter.typeIsNested).append
    (ofBlank parameter.gapIsBlank)).append marks).append name).append
    (nested_suffixes parameter.lengthsAreNested)).append (ofBlank parameter.trailIsBlank)
  rwa [List.append_nil] at whole

theorem noSign_text : '=' ∉ parameter.text := by
  have inSuffixes : '=' ∉ parameter.lengths.flatMap suffix := by
    intro member
    obtain ⟨length, isLength, inSuffix⟩ := List.mem_flatMap.mp member
    have absent := parameter.noSignInLengths length isLength
    simp [suffix, absent] at inSuffix
  simp only [text, List.mem_append, not_or]
  exact ⟨⟨⟨⟨⟨⟨not_mem_of_isBlank parameter.indentIsBlank (by decide), parameter.noSignInType⟩,
    not_mem_of_isBlank parameter.gapIsBlank (by decide)⟩, parameter.not_mem_marks (by decide)⟩,
    not_mem_of_isWord (by decide) parameter.nameIsWord⟩, inSuffixes⟩,
    not_mem_of_isBlank parameter.trailIsBlank (by decide)⟩

theorem noComma_outer : ',' ∉ parameter.outer := by
  simp only [outer, List.mem_append, not_or]
  exact ⟨⟨⟨⟨⟨not_mem_of_isBlank parameter.indentIsBlank (by decide), parameter.noComma⟩,
    not_mem_of_isBlank parameter.gapIsBlank (by decide)⟩, parameter.not_mem_marks (by decide)⟩,
    not_mem_of_isWord (by decide) parameter.nameIsWord⟩,
    not_mem_of_isBlank parameter.trailIsBlank (by decide)⟩

/-- The last word outside the brackets is the name with its signs. -/
theorem words_outer :
    words parameter.outer = words parameter.typeOuter ++ [parameter.marks ++ parameter.name] := by
  have filled : parameter.marks ++ parameter.name ≠ [] := by
    simp [ne_nil_of_isWord parameter.nameIsWord]
  have solid : ∀ char ∈ parameter.marks ++ parameter.name, isBlankChar char = false := by
    intro char member
    rcases List.mem_append.mp member with isMark | inName
    · rcases parameter.areMarks char isMark with rfl | rfl <;> decide
    · exact isBlankChar_of_isWord parameter.nameIsWord char inName
  obtain ⟨blank, gap, shape⟩ := List.exists_cons_of_ne_nil parameter.gapIsFilled
  have gapIsBlank := List.all_eq_true.mp parameter.gapIsBlank
  rw [shape] at gapIsBlank
  obtain ⟨isBlank, later⟩ := List.forall_mem_cons.mp gapIsBlank
  calc
    words parameter.outer =
        words (parameter.indent ++ (parameter.typeOuter ++ blank ::
          (gap ++ (parameter.marks ++ parameter.name)))) := by
      rw [outer, words_append_blank_text _ (List.all_eq_true.mp parameter.trailIsBlank), shape]
      simp
    _ = words parameter.typeOuter ++ [parameter.marks ++ parameter.name] := by
      rw [words_blank_append (List.all_eq_true.mp parameter.indentIsBlank),
        words_append_blank_cons isBlank, words_blank_append later, words_word filled solid]

/-- The name of a parameter is found outside of its brackets. -/
theorem parameterName?_outer : parameterName? parameter.outer = some parameter.name := by
  obtain ⟨first, others, shape⟩ :=
    List.exists_cons_of_ne_nil (words_ne_nil parameter.typeIsFilled)
  have split : words parameter.outer =
      first :: (others ++ [parameter.marks ++ parameter.name]) := by
    rw [parameter.words_outer, shape]
    rfl
  have plain : parameter.name.dropWhile (fun char => char == '&' || char == '*') =
      parameter.name := by
    obtain ⟨start, rest, same⟩ := List.exists_cons_of_ne_nil (ne_nil_of_isWord parameter.nameIsWord)
    have noMark := noMark_of_isWord parameter.nameIsWord
    rw [same] at noMark ⊢
    simp [noMark start rfl]
  apply parameterName?_of_last split List.getLast?_concat
  · rw [List.dropWhile_append_of_pos parameter.all_marks, plain]
  · exact ne_nil_of_isWord parameter.nameIsWord

end BracketedParameter

/-- Without equals signs there are no default values. -/
theorem dropDefaults_eq_self {text : Text} (noSign : '=' ∉ text) :
    dropLastDefault (dropInnerDefaults text) = text := by
  have settled : ∀ piece ∈ List.splitOn ',' text, cutDefault piece = piece := by
    intro piece isPiece
    apply cutDefault_eq_self
    exact occurs_sign_of_not_mem fun member => noSign (mem_of_mem_splitOn isPiece member)
  rw [dropInnerDefaults, cutInner_eq_self settled, List.intercalate_splitOn,
    dropLastDefault_eq_self (occurs_sign_of_not_mem noSign)]

/-- What stands outside the brackets is left of a parameter list, without white space around it. -/
theorem exists_simplify {inner outer : Text} (nested : Nested brackets inner outer)
    (noSign : '=' ∉ inner) :
    ∃ before after, outer = before ++ simplify inner ++ after ∧
      (∀ char ∈ before, isBlankChar char = true) ∧ ∀ char ∈ after, isBlankChar char = true := by
  obtain ⟨before, after, shape, blankBefore, blankAfter⟩ := trim_spec inner
  have whole : outer = before ++ stripAll (trim inner) ++ after := by
    rw [← stripAll_between blankBefore blankAfter, ← shape, stripAll_of_nested nested]
  have noSignLeft : '=' ∉ stripAll (trim inner) := by
    intro member
    exact noSign (nested.mem_of_mem_outer (by simp [whole, member]))
  -- Default values are cut after the brackets, so their search sees what is left only.
  have left : simplify inner = stripAll (trim inner) := dropDefaults_eq_self noSignLeft
  exact ⟨before, after, by rw [left, whole], blankBefore, blankAfter⟩

/-- White space around the declarations does not change the names. -/
theorem filterMap_parameterName?_between {before after : Text}
    (blankBefore : ∀ char ∈ before, isBlankChar char = true)
    (blankAfter : ∀ char ∈ after, isBlankChar char = true) (text : Text) :
    (List.splitOn ',' (before ++ text ++ after)).filterMap parameterName? =
      (List.splitOn ',' text).filterMap parameterName? := by
  have absent {blank : Text} (all : ∀ char ∈ blank, isBlankChar char = true) : ',' ∉ blank :=
    not_mem_of_isBlank (List.all_eq_true.mpr all) (by decide)
  obtain ⟨others, last, shape, extended⟩ := splitOn_append_plain (absent blankAfter) (before ++ text)
  obtain ⟨first, later, alsoShape, alsoExtended⟩ := splitOn_plain_append (absent blankBefore) text
  have behind : parameterName? (last ++ after) = parameterName? last := by
    rw [parameterName?, parameterName?, words_append_blank_text last blankAfter]
  have inFront : parameterName? (before ++ first) = parameterName? first := by
    rw [parameterName?, parameterName?, words_blank_append blankBefore first]
  calc
    (List.splitOn ',' (before ++ text ++ after)).filterMap parameterName? =
        (List.splitOn ',' (before ++ text)).filterMap parameterName? := by
      rw [extended, shape, List.filterMap_append, List.filterMap_append, List.filterMap_cons,
        List.filterMap_cons, behind]
    _ = (List.splitOn ',' text).filterMap parameterName? := by
      rw [alsoExtended, alsoShape, List.filterMap_cons, List.filterMap_cons, inFront]

/-- The text between the parentheses. -/
def bracketedList (list : List BracketedParameter) : Text :=
  List.intercalate [','] (list.map BracketedParameter.text)

/-- The brackets of a list are nested together. -/
theorem nested_bracketedList (list : List BracketedParameter) :
    Nested brackets (bracketedList list) (List.intercalate [','] (list.map BracketedParameter.outer)) :=
  nested_intercalate BracketedParameter.nested_text list

theorem noSign_bracketedList (list : List BracketedParameter) : '=' ∉ bracketedList list := by
  intro member
  rcases mem_intercalate member with inComma | ⟨text, isText, inText⟩
  · exact absurd inComma (by decide)
  · obtain ⟨parameter, _, rfl⟩ := List.mem_map.mp isText
    exact parameter.noSign_text inText

/-- Each parameter of a list has its name. -/
theorem filterMap_parameterName?_outer (list : List BracketedParameter) :
    (List.splitOn ',' (List.intercalate [','] (list.map BracketedParameter.outer))).filterMap
        parameterName? =
      list.map BracketedParameter.name := by
  cases list with
  | nil => rfl
  | cons parameter others =>
      have names : parameterName? ∘ BracketedParameter.outer = some ∘ BracketedParameter.name :=
        funext BracketedParameter.parameterName?_outer
      rw [List.splitOn_intercalate _ _ (by simp), List.filterMap_map, names, List.filterMap_eq_map]
      intro text isText
      obtain ⟨parameter, _, rfl⟩ := List.mem_map.mp isText
      exact parameter.noComma_outer

/-- All parameters are found, in their order. -/
theorem parameters_bracketedList {head : Text} (plain : '(' ∉ head)
    (list : List BracketedParameter) (tail : Text) :
    parameters (head ++ '(' :: (bracketedList list ++ ')' :: tail)) =
      list.map BracketedParameter.name := by
  have nested := nested_bracketedList list
  have closed : parenthesized? (head ++ '(' :: (bracketedList list ++ ')' :: tail)) =
      some (bracketedList list) := by
    have closing := untilClosed_nested_append nested 0 (')' :: tail)
    rw [parenthesized?, cutAt?_append plain]
    simpa [untilClosed] using closing
  obtain ⟨before, after, shape, blankBefore, blankAfter⟩ :=
    exists_simplify nested (noSign_bracketedList list)
  rw [parameters, closed]
  calc
    (List.splitOn ',' (simplify (bracketedList list))).filterMap parameterName? =
        (List.splitOn ',' (List.intercalate [','] (list.map BracketedParameter.outer))).filterMap
          parameterName? := by
      rw [shape, filterMap_parameterName?_between blankBefore blankAfter]
    _ = list.map BracketedParameter.name := filterMap_parameterName?_outer list

/-- Commas and the three kinds of brackets inside each other, signs next to a name, and lengths with
brackets of their own. -/
theorem parameters_bracketedList_load :
    let line := ("void Ship::load(std::map<K[2], std::function<void(int, A<B>[3])>> &cargo ," ++
      " const char\t**grid_2[3][size(T<int>[0])]) const").toList
    ∃ head list tail, '(' ∉ head ∧ line = head ++ '(' :: (bracketedList list ++ ')' :: tail) ∧
      parameters line = ["cargo".toList, "grid_2".toList] := by
  intro line
  let cargo : BracketedParameter :=
    { indent := [], type := "std::map<K[2], std::function<void(int, A<B>[3])>>".toList
      typeOuter := "std::map".toList, gap := " ".toList, marks := "&".toList
      name := "cargo".toList, lengths := [], trail := " ".toList
      indentIsBlank := by decide, typeIsNested := nested_of_outside? (by decide)
      typeIsFilled := by decide, noComma := by decide, noSignInType := by decide
      gapIsBlank := by decide, gapIsFilled := by decide, areMarks := by simp
      nameIsIdentifier := by decide, lengthsAreNested := by simp, noSignInLengths := by simp
      trailIsBlank := by decide }
  let grid : BracketedParameter :=
    { indent := " ".toList, type := "const char".toList, typeOuter := "const char".toList
      gap := "\t".toList, marks := "**".toList, name := "grid_2".toList
      lengths := ["3".toList, "size(T<int>[0])".toList], trail := []
      indentIsBlank := by decide, typeIsNested := nested_of_outside? (by decide)
      typeIsFilled := by decide, noComma := by decide, noSignInType := by decide
      gapIsBlank := by decide, gapIsFilled := by decide, areMarks := by simp
      nameIsIdentifier := by decide
      lengthsAreNested := List.forall_mem_cons.mpr ⟨⟨_, nested_of_outside? rfl⟩,
        List.forall_mem_cons.mpr ⟨⟨_, nested_of_outside? rfl⟩, by simp⟩⟩
      noSignInLengths := by simp, trailIsBlank := by decide }
  have plain : '(' ∉ "void Ship::load".toList := by decide
  have shape : line = "void Ship::load".toList ++
      '(' :: (bracketedList [cargo, grid] ++ ')' :: " const".toList) := by decide +kernel
  refine ⟨_, _, _, plain, shape, ?_⟩
  rw [shape]
  exact parameters_bracketedList plain [cargo, grid] " const".toList

end HouseStyle.Signature
