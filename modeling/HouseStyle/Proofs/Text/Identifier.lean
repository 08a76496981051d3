/-
This file defines identifiers and plain words, and proves which characters they do not have.
-/

import HouseStyle.Text.Basic

namespace HouseStyle.Text

/-- The first character of an identifier. -/
def isNameStart (char : Char) : Bool :=
  char.isAlpha || char == '_'

/-- A character of an identifier or of a plain word. -/
def isNameChar (char : Char) : Bool :=
  char.isAlphanum || char == '_'

/-- A plain word has at least one character. -/
def isWord (text : Text) : Bool :=
  !text.isEmpty && text.all isNameChar

def isIdentifier : Text → Bool
  | [] => false
  | first :: rest => isNameStart first && rest.all isNameChar

/-- Names start with a letter or an underscore. -/
theorem isNameStart_iff (char : Char) :
    isNameStart char = true ↔ (65 ≤ char.toNat ∧ char.toNat ≤ 90) ∨
      (97 ≤ char.toNat ∧ char.toNat ≤ 122) ∨ char.toNat = 95 := by
  have underscore : char = '_' ↔ char.toNat = 95 := by
    constructor
    · rintro rfl
      rfl
    · intro code
      rw [← Char.ofNat_toNat char, code]
  rw [isNameStart]
  delta Char.isAlpha Char.isUpper Char.isLower
  simp only [Bool.or_eq_true, Bool.and_eq_true, decide_eq_true_eq, beq_iff_eq,
    UInt32.le_iff_toNat_le, ge_iff_le, underscore, or_assoc]
  rfl

/-- Names go on with letters, digits and underscores. -/
theorem isNameChar_iff (char : Char) :
    isNameChar char = true ↔ isNameStart char = true ∨
      (48 ≤ char.toNat ∧ char.toNat ≤ 57) := by
  have digit : char.isDigit = true ↔ 48 ≤ char.toNat ∧ char.toNat ≤ 57 := by
    simp only [Char.isDigit, Bool.and_eq_true, decide_eq_true_eq, UInt32.le_iff_toNat_le, ge_iff_le]
    rfl
  rw [← digit]
  simp only [isNameChar, isNameStart, Char.isAlphanum, Bool.or_eq_true]
  constructor
  · rintro ((letter | digit) | underscore)
    · exact Or.inl (Or.inl letter)
    · exact Or.inr digit
    · exact Or.inl (Or.inr underscore)
  · rintro ((letter | underscore) | digit)
    · exact Or.inl (Or.inl letter)
    · exact Or.inr underscore
    · exact Or.inl (Or.inr digit)

/-- No character of a name is white space. -/
theorem isBlankChar_of_isNameChar {char : Char} (plain : isNameChar char = true) :
    isBlankChar char = false := by
  rw [isNameChar_iff, isNameStart_iff] at plain
  simp only [isBlankChar, Bool.or_eq_false_iff, Bool.and_eq_false_iff, decide_eq_false_iff_not,
    beq_eq_false_iff_ne]
  omega

theorem isNameChar_of_isWord {text : Text} (word : isWord text = true) :
    ∀ char ∈ text, isNameChar char = true := by
  rw [isWord, Bool.and_eq_true, List.all_eq_true] at word
  exact word.2

/-- A sign is no character of a word. -/
theorem not_mem_of_isWord {char : Char} (sign : isNameChar char = false) {text : Text}
    (word : isWord text = true) : char ∉ text := by
  intro member
  rw [isNameChar_of_isWord word char member] at sign
  exact absurd sign (by decide)

theorem ne_nil_of_isWord {text : Text} (word : isWord text = true) : text ≠ [] := by
  rintro rfl
  exact absurd word (by decide)

theorem isBlankChar_of_isWord {text : Text} (word : isWord text = true) :
    ∀ char ∈ text, isBlankChar char = false := fun char member =>
  isBlankChar_of_isNameChar (isNameChar_of_isWord word char member)

/-- An identifier is a word. -/
theorem isWord_of_isIdentifier {text : Text} (identifier : isIdentifier text = true) :
    isWord text = true := by
  cases text with
  | nil => exact absurd identifier (by decide)
  | cons first rest =>
      simp only [isIdentifier, Bool.and_eq_true] at identifier
      have start : isNameChar first = true := (isNameChar_iff first).mpr (Or.inl identifier.1)
      simp [isWord, start, identifier.2]

/-- The text stands at a place where no character of a name is beside it. -/
def IsApart (before after : Text) : Prop :=
  (∀ char ∈ before.getLast?, isNameChar char = false) ∧
    ∀ char ∈ after.head?, isNameChar char = false

-- The two instances are named because an instance for all characters would try every character.
instance (before after : Text) : Decidable (IsApart before after) :=
  @instDecidableAnd _ _ (Option.decidableForallMem _) (Option.decidableForallMem _)

/-- The word stands somewhere in the text and is no part of a longer name. -/
def HasWord (word text : Text) : Prop :=
  ∃ before after, text = before ++ word ++ after ∧ IsApart before after

/-- It is enough to try every place of the text. -/
theorem exists_place_iff {word text : Text} :
    (∃ place ∈ List.range (text.length + 1), word.isPrefixOf (text.drop place) = true ∧
      IsApart (text.take place) (text.drop (place + word.length))) ↔ HasWord word text := by
  simp only [List.isPrefixOf_iff_prefix]
  constructor
  · rintro ⟨place, -, ⟨after, shape⟩, apart⟩
    have behind : text.drop (place + word.length) = after := by
      rw [← List.drop_drop, ← shape, List.drop_left]
    refine ⟨text.take place, after, ?_, behind ▸ apart⟩
    rw [List.append_assoc, shape, List.take_append_drop]
  · rintro ⟨before, after, rfl, apart⟩
    refine ⟨before.length, ?_, ?_, ?_⟩
    · simp only [List.mem_range, List.length_append]
      omega
    · rw [List.append_assoc, List.drop_left]
      exact List.prefix_append word after
    · rwa [← List.length_append, List.drop_left, List.append_assoc, List.take_left]

instance (word text : Text) : Decidable (HasWord word text) :=
  decidable_of_iff _ exists_place_iff

end HouseStyle.Text
