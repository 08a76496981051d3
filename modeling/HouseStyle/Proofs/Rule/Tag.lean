/-
This file proves that the expression for documented parameters captures what the scan of a line
finds.
-/

import HouseStyle.Proofs.Regex.Capture
import HouseStyle.Proofs.Rule.Mention
import HouseStyle.Rule.Documentation

namespace HouseStyle.Documentation

open Regex Unicode

/-- The characters inside the brackets after a tag. -/
def directionChars : CharSet :=
  .union (.union (.union (.union .empty (.between 'a' 'z')) (.between 'A' 'Z')) (.single ','))
    (.single ' ')

def nameStarts : CharSet :=
  .union (.union (.union .empty (.between 'A' 'Z')) (.between 'a' 'z')) (.single '_')

def nameChars : CharSet :=
  .union (.union (.union (.union .empty (.between 'A' 'Z')) (.between 'a' 'z'))
    (.between '0' '9')) (.single '_')

/-- An optional direction in brackets. -/
def direction : Regex :=
  .repeated (.sequence (.one (.single '['))
    (.sequence (.repeated (.one directionChars) ⟨0, none⟩ true) (.one (.single ']'))))
    ⟨0, some 1⟩ true

/-- White space and a name that is captured. -/
def spacedName : Regex :=
  .sequence (.repeated (.one whiteSpace) ⟨1, none⟩ true)
    (.capture 1 (.sequence (.one nameStarts) (.repeated (.one nameChars) ⟨0, none⟩ true)))

/-- The expression for a documented parameter after a tag. -/
def tagged (tag : Text) : Regex :=
  literal tag (.sequence direction spacedName)

/-- The rule of the default configuration. -/
def standard : Documentation where
  blockStart := "/**".toList
  paramPattern := tagged "@param".toList

theorem ofConfig_default : ofConfig {} = .ok standard := rfl

theorem contains_nameStarts (char : Char) :
    nameStarts.contains char.toNat = true ↔ Text.isNameStart char = true := by
  rw [Text.isNameStart_iff]
  simp only [nameStarts, CharSet.contains, CharSet.empty, CharSet.between, CharSet.single,
    Bool.or_eq_true, Bool.and_eq_true, decide_eq_true_eq, Char.reduceToNat]
  omega

theorem contains_nameChars (char : Char) :
    nameChars.contains char.toNat = true ↔ Text.isNameChar char = true := by
  rw [Text.isNameChar_iff, Text.isNameStart_iff]
  simp only [nameChars, CharSet.contains, CharSet.empty, CharSet.between, CharSet.single,
    Bool.or_eq_true, Bool.and_eq_true, decide_eq_true_eq, Char.reduceToNat]
  omega

/-- White space of the expression is that of the program. -/
theorem contains_whiteSpace (char : Char) :
    whiteSpace.contains char.toNat = Text.isBlankChar char := by
  rw [Bool.eq_iff_iff]
  simp only [whiteSpace, Text.isBlankChar, CharSet.anyOf, List.foldr_cons, List.foldr_nil,
    CharSet.contains, CharSet.empty, Bool.or_eq_true, Bool.and_eq_true, decide_eq_true_eq,
    beq_iff_eq]
  omega

/-- The characters of a direction are those of the expression. -/
theorem contains_directionChars (char : Char) :
    directionChars.contains char.toNat = isDirectionChar char := by
  have sign (other : Char) : char = other ↔ char.toNat = other.toNat := Char.toNat_inj.symm
  rw [Bool.eq_iff_iff, isDirectionChar]
  delta Char.isAlpha Char.isUpper Char.isLower
  simp only [directionChars, CharSet.contains, CharSet.empty, CharSet.between, CharSet.single,
    Bool.or_eq_true, Bool.and_eq_true, decide_eq_true_eq, beq_iff_eq, UInt32.le_iff_toNat_le,
    ge_iff_le, sign, Char.reduceToNat]
  change _ ↔ ((65 ≤ char.toNat ∧ char.toNat ≤ 90 ∨ 97 ≤ char.toNat ∧ char.toNat ≤ 122) ∨
    char.toNat = 44) ∨ char.toNat = 32
  omega

/-- The characters of a direction are taken up to the bracket that closes it. -/
theorem follow_directionEnd {next : Continuation} (before : Option Char) (text : Text)
    (groups : List (Nat × Text)) :
    follow (.sequence (.repeated (.one directionChars) ⟨0, none⟩ true) (.one (.single ']'))) next
        ⟨before, text, groups⟩ =
      (List.isPrefixOf? [']'] (text.dropWhile isDirectionChar)).bind fun after =>
        next ⟨some ']', after, groups⟩ := by
  have fails (before : Option Char) (char : Char) (rest : Text)
      (member : isDirectionChar char = true) :
      follow (.one (.single ']')) next ⟨before, char :: rest, groups⟩ = none := by
    have different : ']' ≠ char := by
      rintro rfl
      contradiction
    rw [follow_single]
    simp [List.isPrefixOf?, different]
  rw [follow, follow_repeated_one, exactly,
    atMost_one_run contains_directionChars fails text (Nat.le_refl _), follow_single]

/-- A direction is skipped if there is one, provided that nothing that follows can begin with a
bracket. -/
theorem follow_direction {next : Continuation} {groups : List (Nat × Text)}
    (fails : ∀ before rest, next ⟨before, '[' :: rest, groups⟩ = none) (before : Option Char)
    (text : Text) :
    ∃ last, follow direction next ⟨before, text, groups⟩ =
      next ⟨last, (afterDirection? text).getD text, groups⟩ := by
  have once : follow direction next ⟨before, text, groups⟩ =
      (((afterDirection? text).bind fun after =>
        if after.length < text.length then next ⟨some ']', after, groups⟩ else none) <|>
          next ⟨before, text, groups⟩) := by
    have twice : follow direction next ⟨before, text, groups⟩ =
      (follow (.one (.single '[')) (follow (.sequence (.repeated (.one directionChars) ⟨0, none⟩ true)
        (.one (.single ']'))) fun later => if later.rest.length < text.length then next later
          else none) ⟨before, text, groups⟩ <|> next ⟨before, text, groups⟩) := rfl
    rw [twice, follow_single, afterDirection?, Option.bind_assoc]
    simp only [follow_directionEnd]
  rw [once]
  cases found : afterDirection? text with
  | none => exact ⟨before, rfl⟩
  | some after =>
      refine ⟨some ']', ?_⟩
      obtain ⟨inner, opens, -⟩ := Option.bind_eq_some_iff.mp found
      have stuck : next ⟨before, text, groups⟩ = none := by
        rw [← List.isPrefixOf?_eq_some_iff_append_eq.mp opens]
        exact fails before inner
      rw [stuck, Option.bind_some, if_pos (length_afterDirection? found)]
      simp

/-- An expression that captures a name. -/
def capturedName : Regex :=
  .capture 1 (.sequence (.one nameStarts) (.repeated (.one nameChars) ⟨0, none⟩ true))

/-- A name is captured as far as it reaches. -/
theorem follow_capturedName (before : Option Char) (text : Text) (groups : List (Nat × Text)) :
    ∃ last, follow capturedName some ⟨before, text, groups⟩ =
      (takeName? text).map fun (name, rest) => ⟨last, rest, (1, name) :: groups⟩ := by
  have starts (char : Char) : nameStarts.contains char.toNat = Text.isNameStart char :=
    Bool.eq_iff_iff.mpr (contains_nameStarts char)
  have parts (char : Char) : nameChars.contains char.toNat = Text.isNameChar char :=
    Bool.eq_iff_iff.mpr (contains_nameChars char)
  obtain ⟨last, found⟩ := @follow_capturedRun some _ _ _ _ starts parts
    (fun _ _ _ _ _ _ _ _ => rfl) before text groups
  have same : takeName? text = splitRun? Text.isNameStart Text.isNameChar text := by
    cases text <;> rfl
  refine ⟨last, found.trans ?_⟩
  rw [same]
  cases splitRun? Text.isNameStart Text.isNameChar text <;> rfl

/-- White space is skipped up to a name. -/
theorem follow_spacedName (before : Option Char) (text : Text) (groups : List (Nat × Text)) :
    ∃ last, follow spacedName some ⟨before, text, groups⟩ =
      (takeSpacedName? text).map fun (name, rest) => ⟨last, rest, (1, name) :: groups⟩ := by
  have fails (before : Option Char) (char : Char) (rest : Text)
      (blank : Text.isBlankChar char = true) :
      follow capturedName some ⟨before, char :: rest, groups⟩ = none := by
    obtain ⟨last, found⟩ := follow_capturedName before (char :: rest) groups
    rw [found, takeName?_blank blank]
    rfl
  cases text with
  | nil => exact ⟨before, rfl⟩
  | cons first rest =>
      rw [spacedName, follow, follow_repeated_one, exactly, takeSpacedName?]
      cases blank : Text.isBlankChar first with
      | false =>
          rw [follow_one_eq_none (by simpa [contains_whiteSpace] using blank)]
          exact ⟨before, rfl⟩
      | true =>
          rw [follow_one_cons ((contains_whiteSpace first).trans blank), exactly]
          have run := @atMost_one_run _ _ (some first) _ _ contains_whiteSpace fails rest _
            (Nat.le_refl _)
          obtain ⟨last, found⟩ := follow_capturedName
            ((rest.takeWhile Text.isBlankChar).getLast?.or (some first)) (Text.trimStart rest) groups
          exact ⟨last, run.trans found⟩

/-- The expression of a tag matches at the beginning of a text what the scan finds there. -/
theorem matchAt?_mention (tag text : Text) (before : Option Char) :
    ∃ last, (tagged tag).matchAt? before text =
      (mention? tag text).map fun (name, rest) => ⟨last, rest, [(1, name)]⟩ := by
  rw [matchAt?, tagged, follow_literal, mention?]
  cases List.isPrefixOf? tag text with
  | none => exact ⟨before, rfl⟩
  | some rest =>
      have fails (before : Option Char) (rest : Text) :
          follow spacedName some ⟨before, '[' :: rest, []⟩ = none := by
        obtain ⟨last, found⟩ := follow_spacedName before ('[' :: rest) []
        exact found
      obtain ⟨place, skipped⟩ := follow_direction fails (tag.getLast?.or before) rest
      obtain ⟨last, found⟩ := follow_spacedName place ((afterDirection? rest).getD rest) []
      exact ⟨last, skipped.trans found⟩

/-- The expression of a tag finds the same names as the scan. Both are compared at every place of
the line. -/
theorem captures_tagged (tag line : Text) (before : Option Char) :
    (tagged tag).captures 1 before line = scan tag line := by
  fun_induction scan tag line generalizing before with
  | case1 line name rest found _ inductionHypothesis =>
      obtain ⟨last, matched⟩ := matchAt?_mention tag line before
      rw [found] at matched
      rw [captures_of_matchAt? matched (length_mention? found), inductionHypothesis]
      rfl
  | case2 found =>
      obtain ⟨last, matched⟩ := matchAt?_mention tag [] before
      rw [found] at matched
      rw [captures, matched]
      rfl
  | case3 char rest found inductionHypothesis =>
      obtain ⟨last, matched⟩ := matchAt?_mention tag (char :: rest) before
      rw [found] at matched
      rw [captures, matched]
      exact inductionHypothesis (some char)

end HouseStyle.Documentation
