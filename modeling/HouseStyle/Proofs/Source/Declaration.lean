/-
This file proves which name is recorded for a declared parameter, with and without a default value.
-/

import HouseStyle.Proofs.Source.Default
import HouseStyle.Proofs.Text.Identifier

namespace HouseStyle.Signature

open Text

/-- The characters of declarations. -/
def isDeclarationChar (char : Char) : Bool :=
  isNameChar char || char == ' ' || char == '='

/-- A default value, with the numbers of spaces on both sides of its equals sign. -/
structure Default where
  before : Nat
  after : Nat
  value : Text
  valueIsWord : isWord value = true

/-- A parameter as it is declared: a type, an identifier and perhaps a default value. -/
structure Declaration where
  type : Text
  name : Text
  default : Option Default
  typeIsWord : isWord type = true
  nameIsIdentifier : isIdentifier name = true

namespace Declaration

/-- The declaration without its default value. -/
def plain (declaration : Declaration) : Text :=
  declaration.type ++ ' ' :: declaration.name

def text (declaration : Declaration) : Text :=
  match declaration.default with
  | none => declaration.plain
  | some default =>
      declaration.plain ++ List.replicate default.before ' ' ++
        '=' :: (List.replicate default.after ' ' ++ default.value)

/-- The name that is recorded for the parameter. A default value is recognized only if its equals
sign has a space on both sides. -/
def recorded (declaration : Declaration) : Text :=
  match declaration.default with
  | none => declaration.name
  | some default =>
      match default.before, default.after with
      | 0, 0 => declaration.name ++ '=' :: default.value
      | 0, _ + 1 => default.value
      | _ + 1, 0 => '=' :: default.value
      | _ + 1, _ + 1 => declaration.name

/-- The equals sign has a space behind it, and a space in front of it or the name itself as the
value. -/
def isSeparated (declaration : Declaration) : Bool :=
  match declaration.default with
  | none => true
  | some default =>
      default.after != 0 && (default.before != 0 || default.value == declaration.name)

end Declaration

/-- Without an equals sign there is no default value. -/
theorem occurs_sign_of_not_mem {text : Text} (absent : '=' ∉ text) : occurs sign text = false := by
  apply Bool.eq_false_iff.mpr
  intro found
  apply absent
  exact (occurs_iff.mp found).subset (by decide)

/-- The sign of a default value needs a space on both sides. -/
theorem occurs_sign_eq_false {before after : Text} (noneBefore : '=' ∉ before)
    (noneAfter : '=' ∉ after) (narrow : before.getLast? ≠ some ' ' ∨ after.head? ≠ some ' ') :
    occurs sign (before ++ '=' :: after) = false := by
  apply Bool.eq_false_iff.mpr
  intro found
  obtain ⟨first, last, same⟩ := occurs_iff.mp found
  have shape : (first ++ [' ']) ++ '=' :: ' ' :: last = before ++ '=' :: after := by
    rw [← same]
    simp [sign]
  -- There is only one equals sign, so it stands at the same place on both sides.
  have signs := congrArg (List.count '=') shape
  have alone : '=' ∉ first ++ [' '] := by
    apply List.count_eq_zero.mp
    simp only [List.count_append, List.count_cons_self, List.count_eq_zero.mpr noneBefore,
      List.count_eq_zero.mpr noneAfter] at signs ⊢
    omega
  have cut := congrArg (cutAt? '=') shape
  rw [cutAt?_append alone, cutAt?_append noneBefore] at cut
  simp only [Option.some.injEq, Prod.mk.injEq] at cut
  rcases narrow with left | right
  · exact left (by rw [← cut.1]; simp)
  · exact right (by rw [← cut.2]; rfl)

/-- The name of a parameter is what is left of the last word of its declaration without signs. -/
theorem parameterName?_of_last {declaration first last name : Text} {others : List Text}
    (words : words declaration = first :: others) (isLast : others.getLast? = some last)
    (plain : last.dropWhile (fun char => char == '&' || char == '*') = name) (filled : name ≠ []) :
    parameterName? declaration = some name := by
  cases others with
  | nil => simp at isLast
  | cons second others =>
      rw [parameterName?, words]
      simp [isLast, plain, filled]

/-- The name of a parameter is the last word of its declaration. -/
theorem parameterName?_of_words {declaration first last : Text} {others : List Text}
    (words : words declaration = first :: others) (isLast : others.getLast? = some last)
    (noMark : ∀ char ∈ last.head?, char ≠ '&' ∧ char ≠ '*') (filled : last ≠ []) :
    parameterName? declaration = some last := by
  have noDrop : last.dropWhile (fun char => char == '&' || char == '*') = last := by
    cases last with
    | nil => rfl
    | cons char rest => simp [noMark char rfl]
  exact parameterName?_of_last words isLast noDrop filled

/-- A word starts without the signs of references and pointers. -/
theorem noMark_of_isWord {text : Text} (word : isWord text = true) :
    ∀ char ∈ text.head?, char ≠ '&' ∧ char ≠ '*' := by
  intro char first
  have member : char ∈ text := List.mem_of_mem_head? first
  constructor
  · rintro rfl
    exact not_mem_of_isWord (by decide) word member
  · rintro rfl
    exact not_mem_of_isWord (by decide) word member

namespace Declaration

variable (declaration : Declaration)

theorem nameIsWord : isWord declaration.name = true :=
  isWord_of_isIdentifier declaration.nameIsIdentifier

theorem head?_text : declaration.text.head? = declaration.type.head? := by
  obtain ⟨first, rest, filled⟩ :=
    List.exists_cons_of_ne_nil (ne_nil_of_isWord declaration.typeIsWord)
  rw [text]
  split <;> simp [plain, filled]

theorem name_ne_nil : declaration.name ≠ [] :=
  ne_nil_of_isWord declaration.nameIsWord

theorem getLast?_plain : declaration.plain.getLast? = declaration.name.getLast? := by
  have last := List.getLast?_eq_some_getLast declaration.name_ne_nil
  rw [plain, List.getLast?_append, List.getLast?_cons_of_ne_nil declaration.name_ne_nil, last]
  rfl

theorem not_mem_plain {char : Char} (isSign : isNameChar char = false) (notSpace : char ≠ ' ') :
    char ∉ declaration.plain := by
  have inType := not_mem_of_isWord isSign declaration.typeIsWord
  have inName := not_mem_of_isWord isSign declaration.nameIsWord
  simp [plain, inType, inName, notSpace]

/-- The type of a declaration is a word of its own. -/
theorem words_plain_append (rest : Text) :
    words (declaration.plain ++ rest) = declaration.type :: words (declaration.name ++ rest) := by
  rw [plain, List.append_assoc, List.cons_append]
  exact words_append_blank (ne_nil_of_isWord declaration.typeIsWord)
    (isBlankChar_of_isWord declaration.typeIsWord) (by decide) _

/-- A declaration without a default value has two words. -/
theorem words_plain_spaces (count : Nat) :
    words (declaration.plain ++ List.replicate count ' ') =
      [declaration.type, declaration.name] := by
  have plainName := isBlankChar_of_isWord declaration.nameIsWord
  rw [words_plain_append]
  cases count with
  | zero =>
      rw [List.replicate_zero, List.append_nil, words_word declaration.name_ne_nil plainName]
  | succ count =>
      have none := words_spaces count []
      rw [List.append_nil] at none
      rw [List.replicate_succ, words_append_blank declaration.name_ne_nil plainName (by decide),
        none]
      rfl

/-- What remains of the declaration when default values are removed. -/
def kept : Text :=
  match declaration.default with
  | none => declaration.plain
  | some default =>
      if default.before = 0 ∨ default.after = 0 then declaration.text
      else declaration.plain ++ List.replicate (default.before - 1) ' '

/-- A default value with a space on both sides of its sign is cut, and every other one is kept. -/
theorem cutDefault_text :
    cutDefault declaration.text = declaration.kept ∧ occurs sign declaration.kept = false := by
  have noSign : '=' ∉ declaration.plain := declaration.not_mem_plain (by decide) (by decide)
  have noSignSpaces (count : Nat) : '=' ∉ declaration.plain ++ List.replicate count ' ' := by
    simp [noSign]
  cases given : declaration.default with
  | none =>
      have absent := occurs_sign_of_not_mem noSign
      simp only [text, kept, given]
      exact ⟨cutDefault_eq_self absent, absent⟩
  | some default =>
      have noSignValue : '=' ∉ default.value := not_mem_of_isWord (by decide) default.valueIsWord
      have noSignAfter : '=' ∉ List.replicate default.after ' ' ++ default.value := by
        simp [noSignValue]
      by_cases narrow : default.before = 0 ∨ default.after = 0
      · have absent : occurs sign declaration.text = false := by
          simp only [text, given]
          apply occurs_sign_eq_false (noSignSpaces default.before) noSignAfter
          rcases narrow with noneBefore | noneAfter
          · left
            rw [noneBefore, List.replicate_zero, List.append_nil, getLast?_plain]
            intro last
            exact not_mem_of_isWord (by decide) declaration.nameIsWord (List.mem_of_getLast? last)
          · right
            rw [noneAfter, List.replicate_zero, List.nil_append]
            intro first
            exact not_mem_of_isWord (by decide) default.valueIsWord (List.mem_of_mem_head? first)
        simp only [kept, given, if_pos narrow]
        exact ⟨cutDefault_eq_self absent, absent⟩
      · obtain ⟨before, someBefore⟩ : ∃ before, default.before = before + 1 :=
          ⟨default.before - 1, by omega⟩
        obtain ⟨after, someAfter⟩ : ∃ after, default.after = after + 1 :=
          ⟨default.after - 1, by omega⟩
        have shape : declaration.text = declaration.plain ++ List.replicate before ' ' ++ sign ++
            (List.replicate after ' ' ++ default.value) := by
          simp only [text, given, someBefore, someAfter]
          rw [List.replicate_succ' (n := before), List.replicate_succ]
          simp [sign]
        simp only [kept, given, if_neg narrow]
        rw [shape, someBefore, Nat.add_sub_cancel]
        constructor
        · apply cutDefault_append (noSignSpaces before)
          simp [ne_nil_of_isWord default.valueIsWord]
        · exact occurs_sign_of_not_mem (noSignSpaces before)

/-- The last word that remains is the recorded name. -/
theorem parameterName?_kept : parameterName? declaration.kept = some declaration.recorded := by
  have plainName := isBlankChar_of_isWord declaration.nameIsWord
  have nameMark := noMark_of_isWord declaration.nameIsWord
  have nameOnly (count : Nat) :
      parameterName? (declaration.plain ++ List.replicate count ' ') = some declaration.name :=
    parameterName?_of_words (declaration.words_plain_spaces count) rfl nameMark
      declaration.name_ne_nil
  cases given : declaration.default with
  | none => simpa [kept, recorded, given] using nameOnly 0
  | some default =>
      obtain ⟨before, after, value, isValue⟩ := default
      have plainValue := isBlankChar_of_isWord isValue
      have plainSign : ∀ char ∈ '=' :: value, isBlankChar char = false := by
        intro char member
        rcases List.mem_cons.mp member with rfl | inside
        · decide
        · exact plainValue char inside
      cases before with
      | zero =>
          cases after with
          | zero =>
              have shape : declaration.kept = declaration.plain ++ '=' :: value := by
                simp [kept, text, given]
              have split : words declaration.kept =
                  [declaration.type, declaration.name ++ '=' :: value] := by
                rw [shape, words_plain_append, words_word (by simp)]
                intro char member
                rcases List.mem_append.mp member with inName | inSign
                · exact plainName char inName
                · exact plainSign char inSign
              simp only [recorded, given]
              apply parameterName?_of_words split rfl _ (by simp)
              obtain ⟨first, rest, filled⟩ := List.exists_cons_of_ne_nil declaration.name_ne_nil
              rw [filled] at nameMark ⊢
              exact nameMark
          | succ after =>
              have shape : declaration.kept = declaration.plain ++
                  '=' :: ' ' :: (List.replicate after ' ' ++ value) := by
                simp [kept, text, given, List.replicate_succ]
              have split : words declaration.kept =
                  [declaration.type, declaration.name ++ ['='], value] := by
                have whole : declaration.name ++ '=' :: ' ' :: (List.replicate after ' ' ++ value) =
                    (declaration.name ++ ['=']) ++ ' ' :: (List.replicate after ' ' ++ value) := by
                  simp
                rw [shape, words_plain_append, whole, words_append_blank (by simp) _ (by decide),
                  words_spaces, words_word (ne_nil_of_isWord isValue) plainValue]
                intro char member
                rcases List.mem_append.mp member with inName | inSign
                · exact plainName char inName
                · rw [List.mem_singleton.mp inSign]
                  decide
              simp only [recorded, given]
              exact parameterName?_of_words split rfl (noMark_of_isWord isValue)
                (ne_nil_of_isWord isValue)
      | succ before =>
          cases after with
          | zero =>
              have shape : declaration.kept = declaration.plain ++
                  ' ' :: (List.replicate before ' ' ++ '=' :: value) := by
                simp [kept, text, given, List.replicate_succ]
              have split : words declaration.kept =
                  [declaration.type, declaration.name, '=' :: value] := by
                rw [shape, words_plain_append,
                  words_append_blank declaration.name_ne_nil plainName (by decide), words_spaces,
                  words_word (by simp) plainSign]
              simp only [recorded, given]
              exact parameterName?_of_words split rfl (by simp) (by simp)
          | succ after => simpa [kept, recorded, given] using nameOnly before

/-- A space in front of the declaration stays. -/
theorem cutDefault_space_text :
    cutDefault (' ' :: declaration.text) = ' ' :: declaration.kept ∧
      occurs sign (' ' :: declaration.kept) = false := by
  have notSign : declaration.text.head? ≠ some '=' := by
    rw [head?_text]
    intro first
    exact not_mem_of_isWord (by decide) declaration.typeIsWord (List.mem_of_mem_head? first)
  obtain ⟨cut, absent⟩ := declaration.cutDefault_text
  have notSignKept : declaration.kept.head? ≠ some '=' := by
    obtain ⟨removed, same⟩ := cutDefault_spec declaration.text
    intro first
    apply notSign
    rw [same, cut, List.head?_append, first]
    rfl
  rw [cutDefault_cons notSign, cut, occurs, isPrefixOf_sign_cons notSignKept, absent]
  exact ⟨rfl, rfl⟩

/-- A declaration has only its own characters. -/
theorem not_mem_text {char : Char} (outside : isDeclarationChar char = false) :
    char ∉ declaration.text := by
  simp only [isDeclarationChar, Bool.or_eq_false_iff, beq_eq_false_iff_ne] at outside
  obtain ⟨⟨isSign, notSpace⟩, notEqual⟩ := outside
  have inPlain := declaration.not_mem_plain isSign notSpace
  rw [text]
  split
  next => exact inPlain
  next default _ =>
    have inValue := not_mem_of_isWord isSign default.valueIsWord
    simp [inPlain, inValue, notSpace, notEqual]

theorem text_ne_nil : declaration.text ≠ [] := by
  intro empty
  have first := declaration.head?_text
  rw [empty, List.head?_nil] at first
  exact ne_nil_of_isWord declaration.typeIsWord (List.head?_eq_none_iff.mp first.symm)

/-- A declaration begins and ends without white space. -/
theorem text_isTrimmed {char : Char}
    (outer : declaration.text.head? = some char ∨ declaration.text.getLast? = some char) :
    isBlankChar char = false := by
  rcases outer with first | last
  · rw [head?_text] at first
    exact isBlankChar_of_isWord declaration.typeIsWord char (List.mem_of_mem_head? first)
  · rw [text] at last
    split at last
    next =>
      rw [getLast?_plain] at last
      exact isBlankChar_of_isWord declaration.nameIsWord char (List.mem_of_getLast? last)
    next default _ =>
      have lastValue := List.getLast?_eq_some_getLast (ne_nil_of_isWord default.valueIsWord)
      have sameLast : default.value.getLast? = some char := by
        rw [List.getLast?_append, List.getLast?_cons_of_ne_nil (by
          simp [ne_nil_of_isWord default.valueIsWord]), List.getLast?_append, lastValue] at last
        rw [lastValue]
        exact last
      exact isBlankChar_of_isWord default.valueIsWord char (List.mem_of_getLast? sameLast)

end Declaration

end HouseStyle.Signature
