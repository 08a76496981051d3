/-
This file proves that default values change no parameter names if and only if each of them has text
outside its brackets.
-/

import Mathlib.Data.List.Basic
import HouseStyle.Proofs.Source.ParameterList

namespace HouseStyle.Signature

open Text

/-- A default value. `outer` is what stands outside its brackets. -/
structure BracketedValue where
  text : Text
  outer : Text
  isNested : Nested brackets text outer
  isFilled : text ≠ []
  isTrimmed : trim text = text
  noComma : ',' ∉ outer
  noSign : '=' ∉ outer

/-- A parameter of a type, signs of references and pointers and an identifier, perhaps with a default
value. `typeOuter` is what stands outside the brackets of the type. -/
structure DefaultedParameter where
  indent : Text
  type : Text
  typeOuter : Text
  marks : Text
  name : Text
  default : Option BracketedValue
  indentIsBlank : isBlank indent = true
  typeIsNested : Nested brackets type typeOuter
  noComma : ',' ∉ typeOuter
  noSign : '=' ∉ typeOuter
  areMarks : ∀ char ∈ marks, char = '&' ∨ char = '*'
  nameIsIdentifier : isIdentifier name = true

/-- The text outside of brackets has no brackets. -/
theorem Nested.outer_outer {kinds : List (Char × Char)} {text outer : Text}
    (nested : Nested kinds text outer) : Nested kinds outer outer := by
  induction nested with
  | nil => exact .nil
  | plain noBracket => exact .plain noBracket
  | span => exact .nil
  | append _ _ here later => exact here.append later

theorem nested_sign : Nested brackets sign sign :=
  nested_of_outside? (by decide)

namespace DefaultedParameter

variable (parameter : DefaultedParameter)

/-- The name with its signs and the space in front of them. -/
def declarator : Text :=
  ' ' :: (parameter.marks ++ parameter.name)

def text : Text :=
  match parameter.default with
  | none => parameter.indent ++ parameter.type ++ parameter.declarator
  | some value => parameter.indent ++ parameter.type ++ parameter.declarator ++ sign ++ value.text

/-- What stands outside the brackets in front of the default value. -/
def front : Text :=
  parameter.indent ++ parameter.typeOuter ++ parameter.declarator

/-- The declaration without its bracketed parts. -/
def outer : Text :=
  match parameter.default with
  | none => parameter.front
  | some value => parameter.front ++ sign ++ value.outer

def withoutDefault : DefaultedParameter :=
  { parameter with default := none }

/-- The default value is not empty when its brackets are removed. -/
def IsShown : Prop :=
  ∀ value ∈ parameter.default, value.outer ≠ []

theorem nameIsWord : isWord parameter.name = true :=
  isWord_of_isIdentifier parameter.nameIsIdentifier

theorem not_mem_declarator {char : Char} (isSign : isNameChar char = false)
    (other : char ≠ ' ' ∧ char ≠ '&' ∧ char ≠ '*') : char ∉ parameter.declarator := by
  have inName := not_mem_of_isWord isSign parameter.nameIsWord
  have inMarks : char ∉ parameter.marks := fun member =>
    (parameter.areMarks char member).elim other.2.1 other.2.2
  simp [declarator, inName, inMarks, other.1]

theorem noSign_front : '=' ∉ parameter.front := by
  simp only [front, List.mem_append, not_or]
  exact ⟨⟨not_mem_of_isBlank parameter.indentIsBlank (by decide), parameter.noSign⟩,
    parameter.not_mem_declarator (by decide) (by decide)⟩

theorem noComma_front : ',' ∉ parameter.front := by
  simp only [front, List.mem_append, not_or]
  exact ⟨⟨not_mem_of_isBlank parameter.indentIsBlank (by decide), parameter.noComma⟩,
    parameter.not_mem_declarator (by decide) (by decide)⟩

theorem noComma_outer : ',' ∉ parameter.outer := by
  rw [outer]
  split
  next => exact parameter.noComma_front
  next value _ =>
    simp only [List.mem_append, not_or]
    exact ⟨⟨parameter.noComma_front, by decide⟩, value.noComma⟩

/-- The brackets of a parameter are nested, with its name outside. -/
theorem nested_text : Nested brackets parameter.text parameter.outer := by
  have indent : Nested brackets parameter.indent parameter.indent :=
    nested_of_all (List.all_eq_true.mp parameter.indentIsBlank) (by decide)
  have space : Nested brackets [' '] [' '] := .plain (by decide)
  have marks : Nested brackets parameter.marks parameter.marks := by
    apply Nested.ofPlain
    intro char member
    rcases parameter.areMarks char member with rfl | rfl <;> decide
  have name : Nested brackets parameter.name parameter.name :=
    nested_of_all (isNameChar_of_isWord parameter.nameIsWord) (by decide)
  have declared := (indent.append parameter.typeIsNested).append (space.append (marks.append name))
  rw [text, outer]
  split
  next => exact declared
  next value _ => exact (declared.append nested_sign).append value.isNested

/-- The first character of the name stands in front of the default value and is no white space. -/
theorem exists_solid_front : ∃ char ∈ parameter.front, isBlankChar char = false := by
  obtain ⟨char, rest, shape⟩ := List.exists_cons_of_ne_nil (ne_nil_of_isWord parameter.nameIsWord)
  have member : char ∈ parameter.name := by simp [shape]
  exact ⟨char, by simp [front, declarator, member],
    isBlankChar_of_isWord parameter.nameIsWord char member⟩

theorem exists_outer : ∃ rest, parameter.outer = parameter.front ++ rest := by
  rw [outer]
  split
  next => exact ⟨[], (List.append_nil _).symm⟩
  next value _ => exact ⟨sign ++ value.outer, List.append_assoc _ _ _⟩

theorem text_ne_nil : parameter.text ≠ [] := by
  rw [text]
  split <;> simp [declarator]

/-- A declaration ends with its name or with its default value. -/
theorem solid_getLast? {char : Char} (last : parameter.text.getLast? = some char) :
    isBlankChar char = false := by
  rw [text] at last
  split at last
  next =>
    have shape : parameter.declarator = ' ' :: parameter.marks ++ parameter.name := rfl
    rw [shape, ← List.append_assoc,
      List.getLast?_append_of_ne_nil _ (ne_nil_of_isWord parameter.nameIsWord)] at last
    exact isBlankChar_of_isWord parameter.nameIsWord char (List.mem_of_getLast? last)
  next value _ =>
    rw [List.getLast?_append_of_ne_nil _ value.isFilled] at last
    exact isBlankChar_of_trim (Or.inr (by rwa [value.isTrimmed]))

/-- A default value that can be seen is cut. -/
theorem cutDefault_outer (shown : parameter.IsShown) :
    cutDefault parameter.outer = parameter.front := by
  rw [outer]
  split
  next => exact cutDefault_eq_self (occurs_sign_of_not_mem parameter.noSign_front)
  next value given => exact cutDefault_append parameter.noSign_front (shown value given)

/-- A last default value that can be seen is dropped if it is on one line. -/
theorem dropLastDefault_outer (shown : parameter.IsShown)
    (noLineFeed : ∀ value ∈ parameter.default, '\n' ∉ value.outer) :
    dropLastDefault parameter.outer = parameter.front := by
  rw [outer]
  split
  next => exact dropLastDefault_eq_self (occurs_sign_of_not_mem parameter.noSign_front)
  next value given =>
    exact dropLastDefault_append parameter.noSign_front (shown value given) (noLineFeed value given)

/-- Without text outside its brackets, a default value leaves its sign. -/
theorem outer_of_not_isShown (hidden : ¬ parameter.IsShown) :
    parameter.outer = parameter.front ++ sign := by
  rw [outer]
  split
  next none => exact absurd (by simp [IsShown, none]) hidden
  next value given =>
    have empty : value.outer = [] := by
      simpa [IsShown, given] using hidden
    rw [empty, List.append_nil]

/-- What stands outside the brackets, as a parameter without brackets. -/
def visible (typed : isBlank parameter.typeOuter = false) : BracketedParameter where
  indent := parameter.indent
  type := parameter.typeOuter
  typeOuter := parameter.typeOuter
  gap := [' ']
  marks := parameter.marks
  name := parameter.name
  lengths := []
  trail := []
  indentIsBlank := parameter.indentIsBlank
  typeIsNested := parameter.typeIsNested.outer_outer
  typeIsFilled := typed
  noComma := parameter.noComma
  noSignInType := parameter.noSign
  gapIsBlank := by decide
  gapIsFilled := by decide
  areMarks := parameter.areMarks
  nameIsIdentifier := parameter.nameIsIdentifier
  lengthsAreNested := by simp
  noSignInLengths := by simp
  trailIsBlank := by decide

/-- Without its default value a parameter is what stands in front of it. -/
theorem outer_visible (typed : isBlank parameter.typeOuter = false) :
    (parameter.visible typed).outer = parameter.front := by
  simp [visible, BracketedParameter.outer, front, declarator]

/-- The name in front of a default value is found. -/
theorem parameterName?_front (typed : isBlank parameter.typeOuter = false) :
    parameterName? parameter.front = some parameter.name := by
  rw [← parameter.outer_visible typed]
  exact (parameter.visible typed).parameterName?_outer

/-- The sign that is left of a default value is taken for the name. -/
theorem parameterName?_front_sign :
    parameterName? (parameter.front ++ sign) = some ['='] := by
  have blank : isBlankChar ' ' = true := by decide
  have split : words (parameter.front ++ sign) = words parameter.front ++ [['=']] :=
    words_append_blank_cons blank parameter.front "= ".toList
  obtain ⟨first, others, shape⟩ : ∃ first others, words parameter.front = first :: others := by
    apply List.exists_cons_of_ne_nil
    apply words_ne_nil
    apply Bool.eq_false_iff.mpr
    intro all
    obtain ⟨char, member, solid⟩ := parameter.exists_solid_front
    rw [List.all_eq_true.mp all char member] at solid
    contradiction
  rw [shape] at split
  exact parameterName?_of_last split List.getLast?_concat rfl (by decide)

end DefaultedParameter

/-- Text without commas and equals signs stays in front of a list. -/
theorem dropInnerDefaults_plain_append {before text : Text} (noComma : ',' ∉ before)
    (noSign : '=' ∉ before) (different : text.head? ≠ some '=') :
    dropInnerDefaults (before ++ text) = before ++ dropInnerDefaults text := by
  obtain ⟨first, others, shape, extended⟩ := splitOn_plain_append noComma text
  rw [dropInnerDefaults, dropInnerDefaults, shape, extended]
  cases others with
  | nil => simp only [cutInner, List.intercalate_singleton]
  | cons second others =>
      have whole : List.intercalate [','] (text.splitOn ',') = text := List.intercalate_splitOn ','
      have differentFirst : first.head? ≠ some '=' := by
        intro same
        apply different
        rw [← whole, shape, List.intercalate_cons_cons, List.append_assoc, List.head?_append, same]
        rfl
      rw [intercalate_cutInner, intercalate_cutInner, cutDefault_plain_append noSign differentFirst,
        List.append_assoc]

/-- No list begins with an equals sign after default values are dropped. -/
theorem head?_dropInnerDefaults {text : Text} (different : text.head? ≠ some '=') :
    (dropInnerDefaults text).head? ≠ some '=' := by
  obtain ⟨first, others, shape⟩ := List.exists_cons_of_ne_nil (List.splitOn_ne_nil ',' text)
  have whole : List.intercalate [','] (text.splitOn ',') = text := List.intercalate_splitOn ','
  rw [shape] at whole
  rw [dropInnerDefaults, shape]
  cases others with
  | nil =>
      rw [cutInner, whole]
      exact different
  | cons second others =>
      obtain ⟨removed, same⟩ := cutDefault_spec first
      rw [intercalate_cutInner]
      cases kept : cutDefault first with
      | nil => simp
      | cons char rest =>
          intro isSign
          apply different
          rw [← whole, List.intercalate_cons_cons, same, kept]
          exact isSign

/-- A front with a name reaches over the white space, so no equals sign stands right behind it. -/
theorem head?_behind_blank {front rest before text : Text} (whole : front ++ rest = before ++ text)
    (blank : ∀ char ∈ before, isBlankChar char = true) (noSign : '=' ∉ front)
    (solid : ∃ char ∈ front, isBlankChar char = false) : text.head? ≠ some '=' := by
  obtain ⟨solidChar, inFront, isSolid⟩ := solid
  have absent : solidChar ∉ before := not_mem_of_isBlank (List.all_eq_true.mpr blank) isSolid
  intro same
  obtain ⟨later, rfl⟩ := List.head?_eq_some_iff.mp same
  rcases List.append_eq_append_iff.mp whole with ⟨between, inside, -⟩ | ⟨between, inside, behind⟩
  · exact absent (by simp [inside, inFront])
  · cases between with
    | nil => exact absent (by simpa [inside] using inFront)
    | cons char between =>
        rw [← (List.cons.inj behind).1] at inside
        exact noSign (by simp [inside])

/-- White space in front of a list does not change its names, since a name stands before the first
default value. -/
theorem filterMap_parameterName?_simplify_nested {inner front rest : Text}
    (nested : Nested brackets inner (front ++ rest)) (noSign : '=' ∉ front)
    (solid : ∃ char ∈ front, isBlankChar char = false)
    (solidLast : ∀ char ∈ inner.getLast?, isBlankChar char = false) :
    (List.splitOn ',' (simplify inner)).filterMap parameterName? =
      (List.splitOn ',' (dropLastDefault (dropInnerDefaults (front ++ rest)))).filterMap
        parameterName? := by
  obtain ⟨before, shape, blank⟩ := exists_append_trim solidLast
  have nothing : ∀ char ∈ ([] : Text), isBlankChar char = true := by simp
  have whole : front ++ rest = before ++ stripAll (trim inner) := by
    have around := stripAll_between blank nothing (trim inner)
    rwa [List.append_nil, List.append_nil, ← shape, stripAll_of_nested nested] at around
  have absent {char : Char} (isSolid : isBlankChar char = false) : char ∉ before :=
    not_mem_of_isBlank (List.all_eq_true.mpr blank) isSolid
  have different := head?_behind_blank whole blank noSign solid
  have names := filterMap_parameterName?_between blank nothing
    (dropLastDefault (dropInnerDefaults (stripAll (trim inner))))
  rw [List.append_nil] at names
  rw [whole, dropInnerDefaults_plain_append (absent (by decide)) (absent (by decide)) different,
    dropLastDefault_plain_append (absent (by decide)) (head?_dropInnerDefaults different), names]
  rfl

/-- A signature with the given parameters between its parentheses. -/
def signatureOf (head : Text) (list : List DefaultedParameter) (tail : Text) : Text :=
  head ++ '(' :: (List.intercalate [','] (list.map DefaultedParameter.text) ++ ')' :: tail)

section Names

variable {head : Text} (plain : '(' ∉ head) {list : List DefaultedParameter}

include plain

/-- The names are found in what stands outside the brackets. -/
theorem parameters_signatureOf (filled : list ≠ []) (tail : Text) :
    parameters (signatureOf head list tail) =
      (List.splitOn ',' (dropLastDefault (dropInnerDefaults
        (List.intercalate [','] (list.map DefaultedParameter.outer))))).filterMap parameterName? := by
  have nested := nested_intercalate DefaultedParameter.nested_text list
  rw [parameters, signatureOf, parenthesized?_nested plain nested]
  obtain ⟨parameter, others, rfl⟩ := List.exists_cons_of_ne_nil filled
  obtain ⟨rest, front⟩ := parameter.exists_outer
  obtain ⟨rest, whole⟩ : ∃ rest, List.intercalate [',']
      ((parameter :: others).map DefaultedParameter.outer) = parameter.front ++ rest := by
    cases others with
    | nil => exact ⟨rest, by rw [List.map_singleton, List.intercalate_singleton, front]⟩
    | cons second others =>
        rw [List.map_cons, List.map_cons, List.intercalate_cons_cons, front, List.append_assoc,
          List.append_assoc]
        exact ⟨_, rfl⟩
  rw [whole] at nested ⊢
  apply filterMap_parameterName?_simplify_nested nested parameter.noSign_front
    parameter.exists_solid_front
  intro char last
  obtain ⟨text, isText, lastChar⟩ := getLast?_intercalate (by
    intro text isText
    obtain ⟨other, -, rfl⟩ := List.mem_map.mp isText
    exact other.text_ne_nil) last
  obtain ⟨other, -, rfl⟩ := List.mem_map.mp isText
  exact other.solid_getLast? lastChar

/-- Default values with text outside their brackets are removed. -/
theorem parameters_shown (filled : list ≠ []) (shown : ∀ parameter ∈ list, parameter.IsShown)
    (noLineFeed : ∀ parameter ∈ list.getLast?, ∀ value ∈ parameter.default, '\n' ∉ value.outer)
    (tail : Text) :
    parameters (signatureOf head list tail) =
      (list.map DefaultedParameter.front).filterMap parameterName? := by
  have cut : ∀ parameter ∈ list, cutDefault parameter.outer = parameter.front :=
    fun parameter member => parameter.cutDefault_outer (shown parameter member)
  have kept : (list.map DefaultedParameter.outer).map cutDefault =
      list.map DefaultedParameter.front := by
    rw [List.map_map]
    exact List.map_congr_left cut
  rw [parameters_signatureOf plain filled, ← kept, splitOn_dropDefaults_of_last (by simpa using filled)]
  · intro text isText
    obtain ⟨parameter, -, rfl⟩ := List.mem_map.mp isText
    exact parameter.noComma_outer
  · intro text isText
    rw [List.getLast?_map] at isText
    obtain ⟨parameter, isLast, rfl⟩ := Option.map_eq_some_iff.mp isText
    have member := List.mem_of_getLast? isLast
    rw [cut parameter member]
    exact parameter.dropLastDefault_outer (shown parameter member) (noLineFeed parameter isLast)
  · intro text isText
    obtain ⟨parameter, member, rfl⟩ := List.mem_map.mp isText
    rw [cut parameter member]
    exact occurs_sign_of_not_mem parameter.noSign_front

end Names

/-- What is left of a declaration is part of it. -/
theorem mem_of_mem_cutInner {declarations : List Text} {text : Text} {char : Char}
    (isText : text ∈ cutInner declarations) (member : char ∈ text) :
    ∃ declaration ∈ declarations, char ∈ declaration := by
  fun_induction cutInner declarations with
  | case1 => exact absurd isText List.not_mem_nil
  | case2 last => exact ⟨text, isText, member⟩
  | case3 declaration others _ inductionHypothesis =>
      rcases List.mem_cons.mp isText with rfl | later
      · obtain ⟨removed, same⟩ := cutDefault_spec declaration
        exact ⟨declaration, List.mem_cons_self, by rw [same]; exact List.mem_append_left _ member⟩
      · obtain ⟨other, isOther, inOther⟩ := inductionHypothesis later
        exact ⟨other, List.mem_cons_of_mem _ isOther, inOther⟩

/-- A default value without text outside its brackets takes all parameters behind it away. -/
theorem dropDefaults_hidden {parameter second : DefaultedParameter} {others : List DefaultedParameter}
    (hidden : ¬ parameter.IsShown) (oneLine : ∀ other ∈ second :: others, '\n' ∉ other.outer) :
    dropLastDefault (List.intercalate [','] (cutInner
      ((parameter :: second :: others).map DefaultedParameter.outer))) = parameter.front := by
  have kept : cutDefault parameter.outer = parameter.front ++ sign := by
    rw [parameter.outer_of_not_isShown hidden]
    exact cutDefault_plain_append parameter.noSign_front (by decide)
  have noLineFeed : '\n' ∉ ',' :: List.intercalate [','] (cutInner
      ((second :: others).map DefaultedParameter.outer)) := by
    intro member
    rcases mem_intercalate ((List.mem_cons.mp member).resolve_left (by decide)) with
      inComma | ⟨text, isText, inText⟩
    · exact absurd inComma (by decide)
    · obtain ⟨declaration, isDeclaration, inside⟩ := mem_of_mem_cutInner isText inText
      obtain ⟨other, isOther, rfl⟩ := List.mem_map.mp isDeclaration
      exact oneLine other isOther inside
  rw [List.map_cons, List.map_cons, intercalate_cutInner, kept, ← List.map_cons,
    dropLastDefault_append parameter.noSign_front (List.cons_ne_nil _ _) noLineFeed]

/-- All names of a list are found only if each default value has text outside its brackets. -/
theorem isShown_of_names {list : List DefaultedParameter}
    (typed : ∀ parameter ∈ list, isBlank parameter.typeOuter = false)
    (oneLine : ∀ parameter ∈ list, '\n' ∉ parameter.outer)
    (names : (List.splitOn ',' (dropLastDefault (List.intercalate [','] (cutInner
      (list.map DefaultedParameter.outer))))).filterMap parameterName? =
        list.map DefaultedParameter.name) :
    ∀ parameter ∈ list, parameter.IsShown := by
  induction list with
  | nil => exact fun _ member => absurd member List.not_mem_nil
  | cons parameter others inductionHypothesis =>
      obtain ⟨typedFirst, typedLater⟩ := List.forall_mem_cons.mp typed
      have oneLineLater := (List.forall_mem_cons.mp oneLine).2
      have nameFirst := parameter.parameterName?_front typedFirst
      cases others with
      | nil =>
          refine List.forall_mem_singleton.mpr ?_
          by_contra hidden
          have kept : dropLastDefault (parameter.front ++ sign) = parameter.front ++ sign :=
            dropLastDefault_plain_append parameter.noSign_front (by decide)
          have signs := parameter.outer_of_not_isShown hidden
          have noComma := parameter.noComma_outer
          rw [signs] at noComma
          rw [List.map_singleton, cutInner, List.intercalate_singleton, signs, kept,
            List.splitOn_eq_singleton noComma, List.filterMap_cons, parameter.parameterName?_front_sign] at names
          have same : ['='] = parameter.name := (List.cons.inj names).1
          exact not_mem_of_isWord (by decide) parameter.nameIsWord (same ▸ List.mem_singleton_self '=')
      | cons second others =>
          by_cases shown : parameter.IsShown
          · refine List.forall_mem_cons.mpr ⟨shown, inductionHypothesis typedLater oneLineLater ?_⟩
            rw [List.map_cons, List.map_cons, intercalate_cutInner, parameter.cutDefault_outer shown,
              dropLastDefault_append_cons (occurs_sign_of_not_mem parameter.noSign_front),
              List.splitOn_append_cons_self_of_not_mem parameter.noComma_front,
              List.filterMap_cons, nameFirst] at names
            exact (List.cons.inj names).2
          · -- Only the first name is left, and there are at least two.
            rw [dropDefaults_hidden shown oneLineLater,
              List.splitOn_eq_singleton parameter.noComma_front, List.filterMap_cons, nameFirst] at names
            exact absurd (List.cons.inj names).2 (by simp)

/-- The default values do not change the names that are found. -/
def IsTransparent (head : Text) (list : List DefaultedParameter) (tail : Text) : Prop :=
  parameters (signatureOf head list tail) =
    parameters (signatureOf head (list.map DefaultedParameter.withoutDefault) tail)

/-- A list without default values has the names in front of them. -/
theorem parameters_withoutDefault {head : Text} (plain : '(' ∉ head) {list : List DefaultedParameter}
    (filled : list ≠ []) (tail : Text) :
    parameters (signatureOf head (list.map DefaultedParameter.withoutDefault) tail) =
      (list.map DefaultedParameter.front).filterMap parameterName? := by
  have fronts : (list.map DefaultedParameter.withoutDefault).map DefaultedParameter.front =
      list.map DefaultedParameter.front := by
    rw [List.map_map]
    rfl
  rw [← fronts]
  apply parameters_shown plain (by simpa using filled)
  · intro parameter member value isDefault
    obtain ⟨other, -, rfl⟩ := List.mem_map.mp member
    contradiction
  · intro parameter isLast value isDefault
    obtain ⟨other, -, rfl⟩ := List.mem_map.mp (List.mem_of_getLast? isLast)
    contradiction

/-- Default values are transparent if each of them has text outside its brackets. Conversely, one without
such text changes the names, if the declarations stand on one line and their types have text outside
their brackets too. -/
theorem isTransparent_isShown {head : Text} (plain : '(' ∉ head) (list : List DefaultedParameter)
    (tail : Text) :
    ((∀ parameter ∈ list, parameter.IsShown) →
      (∀ parameter ∈ list.getLast?, ∀ value ∈ parameter.default, '\n' ∉ value.outer) →
        IsTransparent head list tail) ∧
    ((∀ parameter ∈ list, isBlank parameter.typeOuter = false ∧ '\n' ∉ parameter.outer) →
      IsTransparent head list tail → ∀ parameter ∈ list, parameter.IsShown) := by
  by_cases filled : list = []
  · subst filled
    exact ⟨fun _ _ => rfl, fun _ _ _ member => absurd member List.not_mem_nil⟩
  constructor
  · intro shown noLineFeed
    rw [IsTransparent, parameters_shown plain filled shown noLineFeed,
      parameters_withoutDefault plain filled]
  · intro oneLine transparent
    have names : (list.map DefaultedParameter.front).filterMap parameterName? =
        list.map DefaultedParameter.name := by
      rw [List.filterMap_map, ← List.filterMap_eq_map]
      exact List.filterMap_congr fun parameter member =>
        parameter.parameterName?_front (oneLine parameter member).1
    rw [IsTransparent, parameters_signatureOf plain filled, parameters_withoutDefault plain filled,
      names, dropInnerDefaults, List.splitOn_intercalate _ _ (by simpa using filled)] at transparent
    · exact isShown_of_names (fun parameter member => (oneLine parameter member).1)
        (fun parameter member => (oneLine parameter member).2) transparent
    · intro text isText
      obtain ⟨parameter, -, rfl⟩ := List.mem_map.mp isText
      exact parameter.noComma_outer

/-- Commas and equals signs in the brackets of three values, and a value that is a number in
parentheses. -/
theorem isTransparent_isShown_load :
    let line := ("void Ship::load(std::map<K, V> *cargo = new std::map<K, V>(), " ++
      "int rows = size(a[0], 1), bool fast, Box<T> &box = make<T>(c = 1) + 2) const").toList
    let plainLine :=
      "void Ship::load(std::map<K, V> *cargo, int rows, bool fast, Box<T> &box) const".toList
    ∃ head list hidden tail, '(' ∉ head ∧ line = signatureOf head list tail ∧
      plainLine = signatureOf head (list.map DefaultedParameter.withoutDefault) tail ∧
      parameters line = parameters plainLine ∧
      "void Ship::load(int rows = (1), bool fast) const".toList = signatureOf head hidden tail ∧
      ¬ IsTransparent head hidden tail := by
  intro line plainLine
  let made : BracketedValue :=
    { text := "new std::map<K, V>()".toList, outer := "new std::map".toList
      isNested := nested_of_outside? (by decide), isFilled := by decide, isTrimmed := by decide
      noComma := by decide, noSign := by decide }
  let called : BracketedValue :=
    { text := "size(a[0], 1)".toList, outer := "size".toList
      isNested := nested_of_outside? (by decide), isFilled := by decide, isTrimmed := by decide
      noComma := by decide, noSign := by decide }
  let added : BracketedValue :=
    { text := "make<T>(c = 1) + 2".toList, outer := "make + 2".toList
      isNested := nested_of_outside? (by decide), isFilled := by decide, isTrimmed := by decide
      noComma := by decide, noSign := by decide }
  let enclosed : BracketedValue :=
    { text := "(1)".toList, outer := [], isNested := nested_of_outside? (by decide)
      isFilled := by decide, isTrimmed := by decide, noComma := by decide, noSign := by decide }
  let cargo : DefaultedParameter :=
    { indent := [], type := "std::map<K, V>".toList, typeOuter := "std::map".toList
      marks := ['*'], name := "cargo".toList, default := some made
      indentIsBlank := by decide, typeIsNested := nested_of_outside? (by decide)
      noComma := by decide, noSign := by decide, areMarks := by simp
      nameIsIdentifier := by decide }
  let rows : DefaultedParameter :=
    { indent := [' '], type := "int".toList, typeOuter := "int".toList
      marks := [], name := "rows".toList, default := some called
      indentIsBlank := by decide, typeIsNested := nested_of_outside? (by decide)
      noComma := by decide, noSign := by decide, areMarks := by simp
      nameIsIdentifier := by decide }
  let fast : DefaultedParameter :=
    { indent := [' '], type := "bool".toList, typeOuter := "bool".toList
      marks := [], name := "fast".toList, default := none
      indentIsBlank := by decide, typeIsNested := nested_of_outside? (by decide)
      noComma := by decide, noSign := by decide, areMarks := by simp
      nameIsIdentifier := by decide }
  let box : DefaultedParameter :=
    { indent := [' '], type := "Box<T>".toList, typeOuter := "Box".toList
      marks := ['&'], name := "box".toList, default := some added
      indentIsBlank := by decide, typeIsNested := nested_of_outside? (by decide)
      noComma := by decide, noSign := by decide, areMarks := by simp
      nameIsIdentifier := by decide }
  have plain : '(' ∉ "void Ship::load".toList := by decide
  have shape : line = signatureOf "void Ship::load".toList [cargo, rows, fast, box]
      " const".toList := by decide +kernel
  have plainShape : plainLine = signatureOf "void Ship::load".toList
      ([cargo, rows, fast, box].map DefaultedParameter.withoutDefault) " const".toList := by
    decide +kernel
  let hidden : DefaultedParameter :=
    { rows with indent := [], indentIsBlank := by decide, default := some enclosed }
  refine ⟨_, [cargo, rows, fast, box], [hidden, fast], _, plain, shape, plainShape, ?_,
    by decide +kernel, ?_⟩
  · rw [shape, plainShape]
    apply (isTransparent_isShown plain _ _).1
    · simp [DefaultedParameter.IsShown, cargo, made, rows, called, fast, box, added]
    · simp [box, added]
  · intro transparent
    have shown := (isTransparent_isShown plain _ _).2 (by decide) transparent
    simp [DefaultedParameter.IsShown, hidden, enclosed] at shown

/-- A number in parentheses leaves nothing but its sign, which is taken for the name. -/
theorem not_isTransparent :
    ¬ ∀ (head : Text) (list : List DefaultedParameter) (tail : Text), '(' ∉ head → list ≠ [] →
      IsTransparent head list tail := by
  intro transparent
  let value : BracketedValue :=
    { text := "(1)".toList, outer := [], isNested := nested_of_outside? (by decide)
      isFilled := by decide, isTrimmed := by decide, noComma := by decide, noSign := by decide }
  let parameter : DefaultedParameter :=
    { indent := [], type := "int".toList, typeOuter := "int".toList
      marks := [], name := "x".toList, default := some value
      indentIsBlank := by decide, typeIsNested := nested_of_outside? (by decide)
      noComma := by decide, noSign := by decide, areMarks := by simp
      nameIsIdentifier := by decide }
  have same := transparent "void f".toList [parameter] [] (by decide) (by decide)
  have sign : parameters (signatureOf "void f".toList [parameter] []) = [['=']] := by decide +kernel
  have name : parameters (signatureOf "void f".toList
      ([parameter].map DefaultedParameter.withoutDefault) []) = [['x']] := by decide +kernel
  rw [IsTransparent, sign, name] at same
  contradiction

end HouseStyle.Signature
