/-
This file proves how default values are removed from a parameter list.
-/

import HouseStyle.Proofs.Text.Basic
import HouseStyle.Source.Signature

namespace HouseStyle.Signature

/-- The sign between a declaration and its default value, with a space on both sides. -/
def sign : Text :=
  " = ".toList

/-- A needle without the separator ends before it. -/
theorem isPrefixOf_append_cons {needle : Text} {separator : Char} (absent : separator ∉ needle)
    (before after : Text) :
    needle.isPrefixOf (before ++ separator :: after) = needle.isPrefixOf before := by
  induction needle generalizing before with
  | nil => rfl
  | cons first needle inductionHypothesis =>
      simp only [List.mem_cons, not_or] at absent
      cases before with
      | nil => simp [List.isPrefixOf, Ne.symm absent.1]
      | cons char before =>
          rw [List.cons_append, List.isPrefixOf, List.isPrefixOf,
            inductionHypothesis absent.2 before]

/-- A needle that does not occur stands neither at the beginning nor later. -/
theorem isPrefixOf_of_occurs {needle : Text} {char : Char} {rest : Text}
    (absent : Text.occurs needle (char :: rest) = false) :
    needle.isPrefixOf (char :: rest) = false ∧ Text.occurs needle rest = false := by
  rw [Text.occurs] at absent
  exact Bool.or_eq_false_iff.mp absent

/-- No default value begins at a text that does not begin with its sign. -/
theorem isPrefixOf?_sign_eq_none {text : Text} (noStart : sign.isPrefixOf text = false) :
    List.isPrefixOf? " = ".toList text = none := by
  have isSome := List.isSome_isPrefixOf?_eq_isPrefixOf " = ".toList text
  rw [show " = ".toList = sign from rfl, noStart] at isSome
  exact Option.not_isSome_iff_eq_none.mp (Bool.eq_false_iff.mp isSome)

/-- Nothing is cut without a default value. -/
theorem cutDefault_eq_self {text : Text} (absent : Text.occurs sign text = false) :
    cutDefault text = text := by
  induction text with
  | nil => rfl
  | cons char rest inductionHypothesis =>
      obtain ⟨noStart, later⟩ := isPrefixOf_of_occurs absent
      rw [cutDefault, isPrefixOf?_sign_eq_none noStart, inductionHypothesis later]

/-- Nothing is dropped without a default value. -/
theorem dropLastDefault_eq_self {text : Text} (absent : Text.occurs sign text = false) :
    dropLastDefault text = text := by
  induction text with
  | nil => rfl
  | cons char rest inductionHypothesis =>
      obtain ⟨noStart, later⟩ := isPrefixOf_of_occurs absent
      rw [dropLastDefault, isPrefixOf?_sign_eq_none noStart, inductionHypothesis later]

/-- Declarations without default values stay as they are. -/
theorem cutInner_eq_self {declarations : List Text}
    (settled : ∀ declaration ∈ declarations, cutDefault declaration = declaration) :
    cutInner declarations = declarations := by
  fun_induction cutInner declarations with
  | case1 => rfl
  | case2 => rfl
  | case3 declaration others _ inductionHypothesis =>
      obtain ⟨here, later⟩ := List.forall_mem_cons.mp settled
      rw [here, inductionHypothesis later]

theorem isPrefixOf_sign_cons {char : Char} {rest : Text} (different : rest.head? ≠ some '=') :
    sign.isPrefixOf (char :: rest) = false := by
  cases rest with
  | nil => simp [sign, List.isPrefixOf]
  | cons second rest =>
      have notSign : second ≠ '=' := fun same => different (by rw [same]; rfl)
      simp [sign, List.isPrefixOf, Ne.symm notSign]

/-- A character stays if no sign of a default value follows it. -/
theorem cutDefault_cons {char : Char} {rest : Text} (different : rest.head? ≠ some '=') :
    cutDefault (char :: rest) = char :: cutDefault rest := by
  rw [cutDefault, isPrefixOf?_sign_eq_none (isPrefixOf_sign_cons different)]

theorem dropLastDefault_cons {char : Char} {rest : Text} (different : rest.head? ≠ some '=') :
    dropLastDefault (char :: rest) = char :: dropLastDefault rest := by
  rw [dropLastDefault, isPrefixOf?_sign_eq_none (isPrefixOf_sign_cons different)]

/-- A text does not begin with an equals sign behind a text without one. -/
theorem head?_append_ne {before text : Text} (noSign : '=' ∉ before)
    (different : text.head? ≠ some '=') : (before ++ text).head? ≠ some '=' := by
  cases before with
  | nil => exact different
  | cons char before =>
      intro same
      exact noSign (List.mem_cons.mpr (Or.inl (Option.some.inj same).symm))

/-- The search for a default value passes over text without equals signs. -/
theorem cutDefault_plain_append {before text : Text} (noSign : '=' ∉ before)
    (different : text.head? ≠ some '=') : cutDefault (before ++ text) = before ++ cutDefault text := by
  induction before with
  | nil => rfl
  | cons char before inductionHypothesis =>
      simp only [List.mem_cons, not_or] at noSign
      rw [List.cons_append, cutDefault_cons (head?_append_ne noSign.2 different),
        inductionHypothesis noSign.2, List.cons_append]

/-- Text without equals signs stays in front of a declaration. -/
theorem dropLastDefault_plain_append {before text : Text} (noSign : '=' ∉ before)
    (different : text.head? ≠ some '=') :
    dropLastDefault (before ++ text) = before ++ dropLastDefault text := by
  induction before with
  | nil => rfl
  | cons char before inductionHypothesis =>
      simp only [List.mem_cons, not_or] at noSign
      rw [List.cons_append, dropLastDefault_cons (head?_append_ne noSign.2 different),
        inductionHypothesis noSign.2, List.cons_append]

/-- A default value of at least one character is removed with its sign. -/
theorem cutDefault_append {before : Text} (noSign : '=' ∉ before) {value : Text}
    (filled : value ≠ []) : cutDefault (before ++ sign ++ value) = before := by
  have removed : cutDefault (sign ++ value) = [] := by
    cases value with
    | nil => exact absurd rfl filled
    | cons first value => rfl
  rw [List.append_assoc, cutDefault_plain_append noSign (by simp [sign]), removed, List.append_nil]

/-- The last default value reaches to the end of the text, over commas too. -/
theorem dropLastDefault_append {before : Text} (noSign : '=' ∉ before) {value : Text}
    (filled : value ≠ []) (noLineFeed : '\n' ∉ value) :
    dropLastDefault (before ++ sign ++ value) = before := by
  have removed : dropLastDefault (sign ++ value) = [] := by
    cases value with
    | nil => exact absurd rfl filled
    | cons first value => simpa [sign, dropLastDefault, List.isPrefixOf?] using noLineFeed
  rw [List.append_assoc, dropLastDefault_plain_append noSign (by simp [sign]), removed,
    List.append_nil]

/-- A declaration starts with what is left of it. -/
theorem cutDefault_spec (text : Text) : ∃ removed, text = cutDefault text ++ removed := by
  induction text with
  | nil => exact ⟨[], rfl⟩
  | cons char rest inductionHypothesis =>
      obtain ⟨removed, same⟩ := inductionHypothesis
      rw [cutDefault]
      split
      next => exact ⟨char :: rest, rfl⟩
      next => exact ⟨removed, congrArg (char :: ·) same⟩

theorem not_mem_cutDefault {char : Char} {text : Text} (absent : char ∉ text) :
    char ∉ cutDefault text := by
  obtain ⟨removed, same⟩ := cutDefault_spec text
  intro member
  apply absent
  rw [same]
  exact List.mem_append_left removed member

/-- On a text without line feeds, the last default value is removed like the other ones. -/
theorem dropLastDefault_eq_cutDefault {text : Text} (noLineFeed : '\n' ∉ text) :
    dropLastDefault text = cutDefault text := by
  induction text with
  | nil => rfl
  | cons char rest inductionHypothesis =>
      simp only [List.mem_cons, not_or] at noLineFeed
      rw [dropLastDefault, cutDefault]
      cases found : List.isPrefixOf? " = ".toList (char :: rest) with
      | none => simp only [inductionHypothesis noLineFeed.2]
      | some value =>
          cases value with
          | nil => simp only [inductionHypothesis noLineFeed.2]
          | cons first value =>
              have member {other : Char} (inside : other ∈ first :: value) : other ∈ rest := by
                have same := List.isPrefixOf?_eq_some_iff_append_eq.mp found
                rw [← (List.cons.inj same).2]
                simp [inside]
              have plain : (first :: value).contains '\n' = false := by
                rw [List.contains_eq_mem]
                exact decide_eq_false fun inside => noLineFeed.2 (member inside)
              simp only [plain, Bool.false_eq_true, if_false]

/-- No default value is removed before a comma if there is no sign. -/
theorem dropLastDefault_append_cons {before : Text} (absent : Text.occurs sign before = false)
    (after : Text) :
    dropLastDefault (before ++ ',' :: after) = before ++ ',' :: dropLastDefault after := by
  have noSign (text : Text) (noStart : sign.isPrefixOf text = false) :
      List.isPrefixOf? " = ".toList (text ++ ',' :: after) = none := by
    apply isPrefixOf?_sign_eq_none
    rw [isPrefixOf_append_cons (by decide), noStart]
  induction before with
  | nil =>
      have comma := noSign [] rfl
      rw [List.nil_append] at comma ⊢
      rw [dropLastDefault, comma]
      rfl
  | cons char before inductionHypothesis =>
      obtain ⟨noStart, later⟩ := isPrefixOf_of_occurs absent
      have none := noSign (char :: before) noStart
      rw [List.cons_append] at none ⊢
      rw [dropLastDefault, none, inductionHypothesis later]
      rfl

/-- Each declaration but the last one loses its default value. -/
theorem intercalate_cutInner (first second : Text) (others : List Text) :
    List.intercalate [','] (cutInner (first :: second :: others)) =
      cutDefault first ++ ',' :: List.intercalate [','] (cutInner (second :: others)) := by
  cases others <;> simp [cutInner, List.intercalate]

/-- Every declaration of a list loses its default value, if the last one does. -/
theorem splitOn_dropDefaults_of_last {declarations : List Text} (filled : declarations ≠ [])
    (noComma : ∀ declaration ∈ declarations, ',' ∉ declaration)
    (last : ∀ declaration ∈ declarations.getLast?,
      dropLastDefault declaration = cutDefault declaration)
    (settled : ∀ declaration ∈ declarations, Text.occurs sign (cutDefault declaration) = false) :
    List.splitOn ',' (dropLastDefault (dropInnerDefaults (List.intercalate [','] declarations))) =
      declarations.map cutDefault := by
  rw [dropInnerDefaults, List.splitOn_intercalate _ noComma filled]
  induction declarations with
  | nil => exact absurd rfl filled
  | cons declaration others inductionHypothesis =>
      have noCommaFirst := not_mem_cutDefault (noComma declaration List.mem_cons_self)
      cases others with
      | nil =>
          rw [cutInner, List.intercalate_singleton, last declaration rfl,
            List.splitOn_eq_singleton noCommaFirst]
          rfl
      | cons second others =>
          have later := inductionHypothesis (List.cons_ne_nil _ _)
            (fun other member => noComma other (List.mem_cons_of_mem _ member))
            (fun other isLast => last other (by rwa [List.getLast?_cons_cons]))
            (fun other member => settled other (List.mem_cons_of_mem _ member))
          rw [intercalate_cutInner, dropLastDefault_append_cons (settled declaration List.mem_cons_self),
            List.splitOn_append_cons_self_of_not_mem noCommaFirst, later]
          rfl

/-- Every declaration of a list loses its default value, the last one like the other ones. -/
theorem splitOn_dropDefaults {declarations : List Text} (filled : declarations ≠ [])
    (noComma : ∀ declaration ∈ declarations, ',' ∉ declaration)
    (noLineFeed : ∀ declaration ∈ declarations, '\n' ∉ declaration)
    (settled : ∀ declaration ∈ declarations, Text.occurs sign (cutDefault declaration) = false) :
    List.splitOn ',' (dropLastDefault (dropInnerDefaults (List.intercalate [','] declarations))) =
      declarations.map cutDefault := by
  refine splitOn_dropDefaults_of_last filled noComma ?_ settled
  intro declaration isLast
  exact dropLastDefault_eq_cutDefault (noLineFeed declaration (List.mem_of_getLast? isLast))

end HouseStyle.Signature
