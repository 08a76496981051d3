/-
This file defines which names a line documents, as a scan of the line from left to right.
-/

import HouseStyle.Proofs.Text.Basic
import HouseStyle.Proofs.Text.Identifier

namespace HouseStyle.Documentation

/-- A character that may stand in the brackets after a tag. -/
def isDirectionChar (char : Char) : Bool :=
  char.isAlpha || char == ',' || char == ' '

/-- The text after a direction in brackets, if the text begins with one. -/
def afterDirection? (text : Text) : Option Text :=
  (List.isPrefixOf? ['['] text).bind fun inner =>
    List.isPrefixOf? [']'] (inner.dropWhile isDirectionChar)

/-- The identifier at the beginning of the text, as long as possible, and the text after it. -/
def takeName? : Text → Option (Text × Text)
  | [] => none
  | first :: rest =>
      if Text.isNameStart first then
        some (first :: rest.takeWhile Text.isNameChar, rest.dropWhile Text.isNameChar)
      else none

/-- The identifier after white space. -/
def takeSpacedName? : Text → Option (Text × Text)
  | [] => none
  | blank :: rest => if Text.isBlankChar blank then takeName? (Text.trimStart rest) else none

/-- The name that is documented at the beginning of the text, and the text after it. The name stands
behind the tag, an optional direction and white space. -/
def mention? (tag text : Text) : Option (Text × Text) :=
  (List.isPrefixOf? tag text).bind fun rest => takeSpacedName? ((afterDirection? rest).getD rest)

/-- A direction is a group of letters, commas and spaces in brackets. -/
def IsDirection (text : Text) : Prop :=
  ∃ inner, text = '[' :: (inner ++ [']']) ∧ ∀ char ∈ inner, isDirectionChar char = true

/-- The text after a direction is found if and only if there is a direction in front of it. -/
theorem afterDirection?_eq_some_iff {text rest : Text} :
    afterDirection? text = some rest ↔
      ∃ direction, text = direction ++ rest ∧ IsDirection direction := by
  rw [afterDirection?, Option.bind_eq_some_iff]
  simp only [List.isPrefixOf?_eq_some_iff_append_eq]
  constructor
  · rintro ⟨inner, rfl, closes⟩
    refine ⟨'[' :: (inner.takeWhile isDirectionChar ++ [']']), ?_, _, rfl,
      List.all_eq_true.mp List.all_takeWhile⟩
    have whole := @List.takeWhile_append_dropWhile _ isDirectionChar inner
    rw [← closes] at whole
    rw [List.cons_append, List.cons_append, List.append_assoc, whole]
    rfl
  · rintro ⟨direction, rfl, inner, rfl, all⟩
    refine ⟨inner ++ ']' :: rest, by simp, ?_⟩
    rw [List.dropWhile_append_of_pos all, List.dropWhile_cons_of_neg (by decide)]
    rfl

theorem length_afterDirection? {text rest : Text} (found : afterDirection? text = some rest) :
    rest.length < text.length := by
  obtain ⟨direction, rfl, inner, rfl, -⟩ := afterDirection?_eq_some_iff.mp found
  simp only [List.cons_append, List.length_cons, List.length_append]
  omega

/-- A name does not begin with a blank. -/
theorem takeName?_blank {char : Char} (blank : Text.isBlankChar char = true) (rest : Text) :
    takeName? (char :: rest) = none := by
  have other : ¬ Text.isNameStart char = true := by
    intro start
    rw [Text.isBlankChar_of_isNameChar ((Text.isNameChar_iff char).mpr (Or.inl start))] at blank
    contradiction
  rw [takeName?, if_neg other]

/-- The text begins with a name, and the name cannot be longer. -/
structure BeginsWithName (text name rest : Text) : Prop where
  shape : text = name ++ rest
  identifier : Text.isIdentifier name = true
  longest : ∀ char ∈ rest.head?, Text.isNameChar char = false

/-- The name at the beginning is as long as possible. -/
theorem takeName?_eq_some_iff {text name rest : Text} :
    takeName? text = some (name, rest) ↔ BeginsWithName text name rest := by
  constructor
  · intro found
    cases text with
    | nil => contradiction
    | cons first others =>
        obtain ⟨start, same⟩ := Option.ite_none_right_eq_some.mp found
        obtain ⟨rfl, rfl⟩ := Prod.mk.inj (Option.some.inj same)
        refine ⟨?_, ?_, ?_⟩
        · rw [List.cons_append, List.takeWhile_append_dropWhile]
        · simp [Text.isIdentifier, start]
        · intro char isHead
          have behind := List.head?_dropWhile_not Text.isNameChar others
          rw [Option.mem_def.mp isHead] at behind
          simpa using behind
  · rintro ⟨rfl, identifier, longest⟩
    cases name with
    | nil => exact absurd identifier (by decide)
    | cons first others =>
        simp only [Text.isIdentifier, Bool.and_eq_true, List.all_eq_true] at identifier
        have none : rest.takeWhile Text.isNameChar = [] ∧ rest.dropWhile Text.isNameChar = rest := by
          cases rest with
          | nil => exact ⟨rfl, rfl⟩
          | cons char rest => simp [longest char rfl]
        rw [List.cons_append, takeName?, if_pos identifier.1,
          List.takeWhile_append_of_pos identifier.2, List.dropWhile_append_of_pos identifier.2,
          none.1, none.2, List.append_nil]

/-- Blanks are skipped in front of a name. -/
theorem takeSpacedName?_eq_some_iff {text name rest : Text} :
    takeSpacedName? text = some (name, rest) ↔
      ∃ blank behind, text = blank ++ behind ∧ blank ≠ [] ∧
        (∀ char ∈ blank, Text.isBlankChar char = true) ∧ BeginsWithName behind name rest := by
  constructor
  · intro found
    cases text with
    | nil => contradiction
    | cons first others =>
        obtain ⟨blank, found⟩ := Option.ite_none_right_eq_some.mp found
        refine ⟨first :: others.takeWhile Text.isBlankChar, Text.trimStart others, ?_,
          List.cons_ne_nil _ _, ?_, takeName?_eq_some_iff.mp found⟩
        · rw [List.cons_append, Text.trimStart, List.takeWhile_append_dropWhile]
        · exact List.forall_mem_cons.mpr ⟨blank, List.all_eq_true.mp List.all_takeWhile⟩
  · rintro ⟨blank, behind, rfl, filled, all, begins⟩
    obtain ⟨first, others, rfl⟩ := List.exists_cons_of_ne_nil filled
    obtain ⟨isBlank, all⟩ := List.forall_mem_cons.mp all
    have found := takeName?_eq_some_iff.mpr begins
    have solid : Text.trimStart behind = behind := by
      rw [Text.trimStart]
      cases behind with
      | nil => rfl
      | cons char behind =>
          refine List.dropWhile_cons_of_neg fun alsoBlank => ?_
          rw [takeName?_blank alsoBlank] at found
          contradiction
    rw [List.cons_append, takeSpacedName?, if_pos isBlank, Text.trimStart,
      List.dropWhile_append_of_pos all, ← Text.trimStart, solid, found]

/-- The text begins with the tag, then comes a direction, which may be missing, then white space and
then a name, which cannot be longer. -/
def Mentions (tag text name rest : Text) : Prop :=
  ∃ direction blank behind, text = tag ++ (direction ++ (blank ++ behind)) ∧
    (direction = [] ∨ IsDirection direction) ∧
    blank ≠ [] ∧ (∀ char ∈ blank, Text.isBlankChar char = true) ∧ BeginsWithName behind name rest

/-- The function finds a mention if and only if there is one. -/
theorem mention?_eq_some_iff {tag text name rest : Text} :
    mention? tag text = some (name, rest) ↔ Mentions tag text name rest := by
  rw [mention?, Option.bind_eq_some_iff]
  simp only [List.isPrefixOf?_eq_some_iff_append_eq]
  constructor
  · rintro ⟨others, rfl, found⟩
    obtain ⟨blank, behind, shape, filled, all, begins⟩ := takeSpacedName?_eq_some_iff.mp found
    cases group : afterDirection? others with
    | none =>
        rw [group] at shape
        exact ⟨[], blank, behind, by rw [← shape]; rfl, Or.inl rfl, filled, all, begins⟩
    | some after =>
        rw [group] at shape
        obtain ⟨direction, rfl, isDirection⟩ := afterDirection?_eq_some_iff.mp group
        exact ⟨direction, blank, behind, by rw [← shape]; rfl, Or.inr isDirection, filled, all, begins⟩
  · rintro ⟨direction, blank, behind, rfl, optional, filled, all, begins⟩
    refine ⟨_, rfl, takeSpacedName?_eq_some_iff.mpr ⟨blank, behind, ?_, filled, all, begins⟩⟩
    rcases optional with rfl | isDirection
    · -- White space is no bracket, so there is no direction.
      obtain ⟨first, others, rfl⟩ := List.exists_cons_of_ne_nil filled
      have none : afterDirection? ([] ++ (first :: others ++ behind)) = none := by
        have different : '[' ≠ first := by
          rintro rfl
          exact absurd (all _ List.mem_cons_self) (by decide)
        simp [afterDirection?, List.isPrefixOf?, different]
      rw [none]
      rfl
    · rw [afterDirection?_eq_some_iff.mpr ⟨direction, rfl, isDirection⟩]
      rfl

/-- A mention takes at least one character. -/
theorem length_mention? {tag text name rest : Text}
    (found : mention? tag text = some (name, rest)) : rest.length < text.length := by
  obtain ⟨direction, blank, behind, rfl, -, filled, -, shape, -, -⟩ := mention?_eq_some_iff.mp found
  have positive := List.length_pos_iff.mpr filled
  simp only [shape, List.length_append]
  omega

/-- The names that a line documents, from left to right. Behind a name the scan goes on, and where no
name is documented it moves on by one character. -/
def scan (tag : Text) (line : Text) : List Text :=
  match found : mention? tag line with
  | some (name, rest) =>
      have := length_mention? found
      name :: scan tag rest
  | none =>
      match line with
      | [] => []
      | _ :: rest => scan tag rest
termination_by line.length

/-- A name that is found comes first, and the scan goes on behind it. -/
theorem scan_of_mention {tag line name rest : Text} (found : mention? tag line = some (name, rest)) :
    scan tag line = name :: scan tag rest := by
  rw [scan]
  split
  next same =>
    obtain ⟨rfl, rfl⟩ := Prod.mk.inj (Option.some.inj (same.symm.trans found))
    rfl
  next none =>
    rw [none] at found
    contradiction

theorem scan_nil (tag : Text) : scan tag [] = [] := by
  rw [scan]
  split
  next found => exact absurd (length_mention? found) (Nat.not_lt_zero _)
  next => rfl

/-- No name is documented before the first character of the tag. -/
theorem scan_append {first : Char} (tag : Text) {before : Text} (absent : first ∉ before)
    (rest : Text) : scan (first :: tag) (before ++ rest) = scan (first :: tag) rest := by
  induction before with
  | nil => rfl
  | cons char before inductionHypothesis =>
      simp only [List.mem_cons, not_or] at absent
      have nothing : mention? (first :: tag) (char :: (before ++ rest)) = none := by
        simp [mention?, List.isPrefixOf?, absent.1]
      rw [List.cons_append, scan]
      split
      next found =>
        rw [nothing] at found
        contradiction
      next => exact inductionHypothesis absent.2

/-- A line without the first character of the tag documents nothing. -/
theorem scan_eq_nil {first : Char} (tag : Text) {line : Text} (absent : first ∉ line) :
    scan (first :: tag) line = [] := by
  have skipped := scan_append tag absent []
  rwa [List.append_nil, scan_nil] at skipped

end HouseStyle.Documentation
