/-
This file proves how the words and the pieces of a text depend on the text around it.
-/

import HouseStyle.Proofs.Text.Basic

namespace HouseStyle.Text

/-- White space separates words. -/
theorem words_append_blank_cons {blank : Char} (isBlank : isBlankChar blank = true)
    (before after : Text) : words (before ++ blank :: after) = words before ++ words after := by
  have scan (current : Text) :
      wordsFrom current (before ++ blank :: after) = wordsFrom current before ++ words after := by
    induction before generalizing current with
    | nil =>
        rw [List.nil_append, wordsFrom, wordsFrom, if_pos isBlank]
        split <;> rfl
    | cons char before inductionHypothesis =>
        rw [List.cons_append, wordsFrom, wordsFrom]
        split
        next =>
          split
          next => exact inductionHypothesis []
          next => rw [inductionHypothesis [], List.cons_append]
        next => exact inductionHypothesis (current ++ [char])
  exact scan []

/-- White space in front does not matter for words. -/
theorem words_blank_append {blank : Text} (all : ∀ char ∈ blank, isBlankChar char = true)
    (text : Text) : words (blank ++ text) = words text := by
  induction blank with
  | nil => rfl
  | cons char blank inductionHypothesis =>
      obtain ⟨isBlank, later⟩ := List.forall_mem_cons.mp all
      rw [List.cons_append, words_cons_blank isBlank, inductionHypothesis later]

/-- White space at the end does not matter for words. -/
theorem words_append_blank_text (text : Text) {blank : Text}
    (all : ∀ char ∈ blank, isBlankChar char = true) : words (text ++ blank) = words text := by
  cases blank with
  | nil => rw [List.append_nil]
  | cons char blank =>
      obtain ⟨isBlank, later⟩ := List.forall_mem_cons.mp all
      have none := words_blank_append later []
      rw [List.append_nil] at none
      rw [words_append_blank_cons isBlank, none]
      exact List.append_nil _

/-- A scan without words has read white space only. -/
theorem isBlank_of_wordsFrom_eq_nil {current text : Text} (none : wordsFrom current text = []) :
    current = [] ∧ isBlank text = true := by
  induction text generalizing current with
  | nil =>
      rw [wordsFrom] at none
      split at none
      next empty => exact ⟨List.isEmpty_iff.mp empty, rfl⟩
      next => contradiction
  | cons char text inductionHypothesis =>
      rw [wordsFrom] at none
      split at none
      next blank =>
        split at none
        next empty =>
          have later := (inductionHypothesis none).2
          exact ⟨List.isEmpty_iff.mp empty, by rw [isBlank, List.all_cons, blank]; exact later⟩
        next => contradiction
      next => exact absurd (inductionHypothesis none).1 (by simp)

/-- A text that is not blank has words. -/
theorem words_ne_nil {text : Text} (filled : isBlank text = false) : words text ≠ [] := by
  intro none
  rw [(isBlank_of_wordsFrom_eq_nil none).2] at filled
  contradiction

/-- Text without separators in front of a text belongs to its first piece. -/
theorem splitOn_plain_append {separator : Char} {before : Text} (absent : separator ∉ before)
    (text : Text) :
    ∃ first others, List.splitOn separator text = first :: others ∧
      List.splitOn separator (before ++ text) = (before ++ first) :: others := by
  obtain ⟨first, others, shape⟩ := List.exists_cons_of_ne_nil (List.splitOn_ne_nil separator text)
  refine ⟨first, others, shape, ?_⟩
  induction before with
  | nil => exact shape
  | cons char before inductionHypothesis =>
      simp only [List.mem_cons, not_or] at absent
      have other : ¬ (char == separator) = true := fun same => absent.1 (beq_iff_eq.mp same).symm
      rw [List.cons_append, List.splitOn_cons_eq_if_modifyHead, if_neg other,
        inductionHypothesis absent.2]
      rfl

/-- Text without separators behind a text belongs to its last piece. -/
theorem splitOn_append_plain {separator : Char} {after : Text} (absent : separator ∉ after)
    (text : Text) :
    ∃ others last, List.splitOn separator text = others ++ [last] ∧
      List.splitOn separator (text ++ after) = others ++ [last ++ after] := by
  induction text with
  | nil => exact ⟨[], [], rfl, List.splitOn_eq_singleton absent⟩
  | cons char text inductionHypothesis =>
      obtain ⟨others, last, shape, extended⟩ := inductionHypothesis
      rw [List.cons_append, List.splitOn_cons_eq_if_modifyHead,
        List.splitOn_cons_eq_if_modifyHead, shape, extended]
      split
      next => exact ⟨[] :: others, last, rfl, rfl⟩
      next =>
        cases others with
        | nil => exact ⟨[], char :: last, rfl, rfl⟩
        | cons first others => exact ⟨(char :: first) :: others, last, rfl, rfl⟩

/-- Only the start is trimmed from a text that ends without white space. -/
theorem exists_append_trim {text : Text}
    (solidLast : ∀ char ∈ text.getLast?, isBlankChar char = false) :
    ∃ before, text = before ++ trim text ∧ ∀ char ∈ before, isBlankChar char = true := by
  obtain ⟨before, after, shape, blankBefore, blankAfter⟩ := trim_spec text
  rcases List.eq_nil_or_concat after with empty | ⟨start, last, isLast⟩
  · rw [empty, List.append_nil] at shape
    exact ⟨before, shape, blankBefore⟩
  · have blank := blankAfter last (by simp [isLast])
    rw [solidLast last (by rw [shape, isLast]; simp)] at blank
    contradiction

section LastWord

/-- White space at the end of a text ends its last word. -/
theorem words_append_of_ended {before : Text}
    (ended : ∀ char ∈ before.getLast?, isBlankChar char = true) (text : Text) :
    words (before ++ text) = words before ++ words text := by
  rcases List.eq_nil_or_concat before with rfl | ⟨start, blank, rfl⟩
  · rfl
  · rw [List.concat_eq_append] at ended ⊢
    have isBlank : isBlankChar blank = true := ended blank (by simp)
    rw [List.append_assoc, List.singleton_append, words_append_blank_cons isBlank,
      words_append_blank_cons isBlank]
    simp [words, wordsFrom]

/-- The text in front of the last word. -/
def beforeLastWord (text : Text) : Text :=
  dropEndWhile (fun char => !isBlankChar char) (trimEnd text)

/-- The last word of a text has white space around it. It is empty if there are no words. -/
structure IsLastWord (before word after : Text) : Prop where
  ended : ∀ char ∈ before.getLast?, isBlankChar char = true
  plain : ∀ char ∈ word, isBlankChar char = false
  blank : ∀ char ∈ after, isBlankChar char = true
  filled : word = [] → before = []

/-- Every text has a last word, which may be empty. -/
theorem exists_isLastWord (text : Text) :
    ∃ word after, text = beforeLastWord text ++ word ++ after ∧
      IsLastWord (beforeLastWord text) word after := by
  obtain ⟨after, shape, blank⟩ := dropEndWhile_spec isBlankChar text
  obtain ⟨word, inner, plain⟩ := dropEndWhile_spec (fun char => !isBlankChar char) (trimEnd text)
  refine ⟨word, after, ?_, { ended := ?_, plain := by simpa using plain, blank, filled := ?_ }⟩
  · rw [beforeLastWord, ← inner]
    exact shape
  · intro char last
    simpa using getLast?_dropEndWhile last
  · intro empty
    rw [empty, List.append_nil] at inner
    -- The trimmed text ends without white space, and what is in front of the word ends with it.
    rcases List.eq_nil_or_concat (beforeLastWord text) with none | ⟨start, char, last⟩
    · exact none
    · have isLast : (beforeLastWord text).getLast? = some char := by simp [last]
      have solid : isBlankChar char = false :=
        getLast?_dropEndWhile (inner.symm ▸ isLast : (trimEnd text).getLast? = some char)
      have ended : isBlankChar char = true := by simpa using getLast?_dropEndWhile isLast
      rw [solid] at ended
      contradiction

namespace IsLastWord

variable {before word after : Text}

/-- The last word is the last one of all words. -/
theorem getLast?_words (isLast : IsLastWord before word after) :
    (words (before ++ word ++ after)).getLast?.getD [] = word := by
  rw [words_append_blank_text _ isLast.blank, words_append_of_ended isLast.ended]
  by_cases empty : word = []
  · rw [empty, isLast.filled empty]
    rfl
  · simp [words_word empty isLast.plain]

/-- The last word ends a trimmed text. -/
theorem trim_eq (isLast : IsLastWord before word after) :
    trim (before ++ word ++ after) = trimStart before ++ word := by
  rw [trim_append_blank isLast.blank]
  rcases List.eq_nil_or_concat word with empty | ⟨start, char, shape⟩
  · rw [empty, isLast.filled empty]
    rfl
  · rw [List.concat_eq_append] at shape
    have solid : isBlankChar char = false := isLast.plain char (by simp [shape])
    have started : trimStart word = word := by
      cases word with
      | nil => rfl
      | cons first rest => simp [trimStart, isLast.plain first List.mem_cons_self]
    have front : trimStart (before ++ word) = trimStart before ++ word := by
      rw [trimStart, List.dropWhile_append]
      split
      next empty =>
        have none : trimStart before = [] := List.isEmpty_iff.mp empty
        rw [none, List.nil_append]
        exact started
      next => rfl
    rw [trim, front, trimEnd, shape, ← List.append_assoc, dropEndWhile_append_cons _ _ solid]
    rfl

end IsLastWord

/-- Nothing is left of white space, and other text keeps its last character. -/
theorem getLast?_trimStart (text : Text) :
    (trimStart text).getLast? = if isBlank text then none else text.getLast? := by
  have empty : trimStart text = [] ↔ isBlank text = true := by
    induction text with
    | nil => simp [trimStart, isBlank]
    | cons char text inductionHypothesis =>
        cases blank : isBlankChar char <;> simp_all [trimStart, isBlank]
  split
  next blank => rw [empty.mpr blank, List.getLast?_nil]
  next filled =>
    have left : trimStart text ≠ [] := fun none => filled (empty.mp none)
    have shape : text = text.takeWhile isBlankChar ++ trimStart text :=
      List.takeWhile_append_dropWhile.symm
    conv => rhs; rw [shape, List.getLast?_append, List.getLast?_eq_some_getLast left]
    rw [List.getLast?_eq_some_getLast left, Option.some_or]

/-- Text without separators belongs to the last piece of the text in front of it. -/
theorem getLast?_splitOn_append {separator : Char} {after : Text} (absent : separator ∉ after)
    (text : Text) : (List.splitOn separator (text ++ after)).getLast?.getD [] =
      (List.splitOn separator text).getLast?.getD [] ++ after := by
  obtain ⟨others, last, shape, extended⟩ := splitOn_append_plain absent text
  simp [shape, extended]

/-- The last piece is empty if and only if there is a separator at the end. -/
theorem getLast?_splitOn_eq_nil_iff {separator : Char} {text : Text} :
    (List.splitOn separator text).getLast?.getD [] = [] ↔ ∀ char ∈ text.getLast?, char = separator := by
  rcases List.eq_nil_or_concat text with rfl | ⟨start, last, rfl⟩
  · simp
  · rw [List.concat_eq_append]
    by_cases same : last = separator
    · simp [same, List.splitOn_append_cons_self]
    · rw [getLast?_splitOn_append (by simp [Ne.symm same])]
      simp [same]

end LastWord

end HouseStyle.Text
