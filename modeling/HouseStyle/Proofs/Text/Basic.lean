/-
This file proves how texts are trimmed, cut and split.
-/

import Mathlib.Data.List.DropRight
import HouseStyle.Text.Search

namespace HouseStyle.Text

/-- Characters at the end are removed as the library does it. -/
theorem dropEndWhile_eq_rdropWhile : dropEndWhile = List.rdropWhile := rfl

/-- Only characters at the end that satisfy the predicate are removed. -/
theorem dropEndWhile_spec (predicate : Char → Bool) (text : Text) :
    ∃ removed, text = dropEndWhile predicate text ++ removed ∧
      ∀ char ∈ removed, predicate char = true := by
  rw [dropEndWhile_eq_rdropWhile]
  exact ⟨text.rtakeWhile predicate, List.rdropWhile_append_rtakeWhile.symm,
    fun _ => List.mem_rtakeWhile_imp⟩

/-- A character that does not satisfy the predicate stays with everything in front of it. -/
theorem dropEndWhile_append_cons (predicate : Char → Bool) (before : Text) {char : Char}
    (stays : predicate char = false) (after : Text) :
    dropEndWhile predicate (before ++ char :: after) =
      before ++ char :: dropEndWhile predicate after := by
  rw [dropEndWhile, List.reverse_append, List.reverse_cons, List.append_assoc, List.dropWhile_append]
  split
  next empty => simp [dropEndWhile, List.isEmpty_iff.mp empty, stays]
  next => simp [dropEndWhile]

/-- A text is its trimmed part between white space. -/
theorem trim_spec (text : Text) :
    ∃ before after, text = before ++ trim text ++ after ∧
      (∀ char ∈ before, isBlankChar char = true) ∧ ∀ char ∈ after, isBlankChar char = true := by
  obtain ⟨after, same, blank⟩ := dropEndWhile_spec isBlankChar (trimStart text)
  refine ⟨text.takeWhile isBlankChar, after, ?_, List.all_eq_true.mp List.all_takeWhile, blank⟩
  rw [List.append_assoc]
  calc
    text = text.takeWhile isBlankChar ++ trimStart text := List.takeWhile_append_dropWhile.symm
    _ = text.takeWhile isBlankChar ++ (trim text ++ after) := by rw [same]; rfl

theorem not_mem_of_isBlank {text : Text} (blank : isBlank text = true) {char : Char}
    (solid : isBlankChar char = false) : char ∉ text := by
  intro member
  rw [List.all_eq_true.mp blank char member] at solid
  contradiction

theorem mem_of_mem_trim {text : Text} {char : Char} (member : char ∈ trim text) : char ∈ text := by
  obtain ⟨before, after, same, -, -⟩ := trim_spec text
  rw [same]
  simp [member]

/-- A text that is not blank has characters between its white space. -/
theorem trim_ne_nil {text : Text} (filled : isBlank text = false) : trim text ≠ [] := by
  intro empty
  obtain ⟨before, after, same, blankBefore, blankAfter⟩ := trim_spec text
  have blank : isBlank text = true := by
    rw [isBlank, same, empty, List.append_nil, List.all_append, Bool.and_eq_true]
    exact ⟨List.all_eq_true.mpr blankBefore, List.all_eq_true.mpr blankAfter⟩
  rw [filled] at blank
  contradiction

/-- Characters to remove at the end do not matter. -/
theorem dropEndWhile_append {predicate : Char → Bool} {removed : Text}
    (all : ∀ char ∈ removed, predicate char = true) (text : Text) :
    dropEndWhile predicate (text ++ removed) = dropEndWhile predicate text := by
  have allReverse : ∀ char ∈ removed.reverse, predicate char = true := by simpa using all
  rw [dropEndWhile, List.reverse_append, List.dropWhile_append_of_pos allReverse, dropEndWhile]

/-- White space at the end does not matter. -/
theorem trim_append_blank {blank : Text} (all : ∀ char ∈ blank, isBlankChar char = true)
    (text : Text) : trim (text ++ blank) = trim text := by
  have none : blank.dropWhile isBlankChar = [] := by
    rw [← List.append_nil blank, List.dropWhile_append_of_pos all, List.dropWhile_nil]
  rw [trim, trimStart, List.dropWhile_append, trim, trimStart]
  split
  next empty => rw [List.isEmpty_iff.mp empty, none]
  next => exact dropEndWhile_append all _

/-- The last character that is left does not satisfy the predicate. -/
theorem getLast?_dropEndWhile {predicate : Char → Bool} {text : Text} {char : Char}
    (last : (dropEndWhile predicate text).getLast? = some char) : predicate char = false := by
  have filled : dropEndWhile predicate text ≠ [] := by
    rintro empty
    simp [empty] at last
  rw [List.getLast?_eq_some_getLast filled] at last
  obtain rfl := Option.some.inj last
  exact Bool.eq_false_iff.mpr (List.rdropWhile_last_not predicate text filled)

/-- A trimmed text begins and ends without white space. -/
theorem isBlankChar_of_trim {text : Text} {char : Char}
    (outer : (trim text).head? = some char ∨ (trim text).getLast? = some char) :
    isBlankChar char = false := by
  rcases outer with first | last
  · obtain ⟨removed, same, -⟩ := dropEndWhile_spec isBlankChar (trimStart text)
    have start : (trimStart text).head? = some char := by
      rw [same, List.head?_append]
      simp [show (dropEndWhile isBlankChar (trimStart text)).head? = some char from first]
    have plain := List.head?_dropWhile_not isBlankChar text
    rw [show (text.dropWhile isBlankChar).head? = some char from start] at plain
    simpa using plain
  · exact getLast?_dropEndWhile last

/-- Text without the separator stays in front of the cut. -/
theorem cutAt?_append_left {separator : Char} {before : Text} (absent : separator ∉ before)
    (after : Text) :
    cutAt? separator (before ++ after) =
      (cutAt? separator after).map fun (first, rest) => (before ++ first, rest) := by
  induction before with
  | nil => simp
  | cons char before inductionHypothesis =>
      simp only [List.mem_cons, not_or] at absent
      rw [List.cons_append, cutAt?, if_neg (Ne.symm absent.1), inductionHypothesis absent.2]
      simp [Function.comp_def]

theorem cutAt?_append {separator : Char} {before : Text} (absent : separator ∉ before)
    (after : Text) : cutAt? separator (before ++ separator :: after) = some (before, after) := by
  rw [cutAt?_append_left absent]
  simp [cutAt?]

/-- A needle occurs in a text if it stands between two parts of it. -/
theorem occurs_iff {needle text : Text} : occurs needle text = true ↔ needle <:+: text := by
  induction text with
  | nil => simp [occurs]
  | cons char text inductionHypothesis =>
      rw [occurs, Bool.or_eq_true, inductionHypothesis, List.isPrefixOf_iff_prefix,
        List.infix_cons_iff]

/-- A text is cut at the first separator. -/
theorem cutAt?_spec {separator : Char} {text before after : Text}
    (found : cutAt? separator text = some (before, after)) :
    text = before ++ separator :: after ∧ separator ∉ before := by
  induction text generalizing before with
  | nil => simp [cutAt?] at found
  | cons char text inductionHypothesis =>
      rw [cutAt?] at found
      split at found
      next same =>
        simp only [Option.some.injEq, Prod.mk.injEq] at found
        obtain ⟨rfl, rfl⟩ := found
        exact ⟨by rw [same]; rfl, by simp⟩
      next different =>
        simp only [Option.map_eq_some_iff, Prod.mk.injEq] at found
        obtain ⟨⟨inner, outer⟩, found, rfl, rfl⟩ := found
        obtain ⟨shape, absent⟩ := inductionHypothesis found
        exact ⟨by rw [shape]; rfl, by simp [Ne.symm different, absent]⟩

/-- A text is cut if and only if it has the separator. -/
theorem cutAt?_eq_none_iff {separator : Char} {text : Text} :
    cutAt? separator text = none ↔ separator ∉ text := by
  induction text with
  | nil => simp [cutAt?]
  | cons char text inductionHypothesis =>
      rw [cutAt?, List.mem_cons, not_or]
      split
      next same => simp [same]
      next different => simp [inductionHypothesis, Ne.symm different]

/-- A separator ends a piece. -/
theorem not_mem_of_mem_splitOn {separator : Char} {text piece : Text}
    (member : piece ∈ text.splitOn separator) : separator ∉ piece := by
  induction text generalizing piece with
  | nil =>
      obtain rfl := List.mem_singleton.mp member
      exact List.not_mem_nil
  | cons char text inductionHypothesis =>
      obtain ⟨first, others, shape⟩ :=
        List.exists_cons_of_ne_nil (List.splitOn_ne_nil separator text)
      have noSeparator := List.forall_mem_cons.mp (shape ▸ @inductionHypothesis)
      rw [List.splitOn_cons_eq_if_modifyHead, shape] at member
      split at member
      next =>
        rcases List.mem_cons.mp member with rfl | later
        · exact List.not_mem_nil
        · exact inductionHypothesis (shape ▸ later)
      next different =>
        rcases List.mem_cons.mp member with rfl | later
        · have other : separator ≠ char := fun same => different (by simp [same])
          simp [other, noSeparator.1]
        · exact noSeparator.2 piece later

/-- The space after a separator may be counted to the next text. -/
theorem intercalate_space (separator : Char) (first : Text) (others : List Text) :
    List.intercalate [separator, ' '] (first :: others) =
      List.intercalate [separator] (first :: others.map (' ' :: ·)) := by
  induction others generalizing first with
  | nil => rfl
  | cons other others inductionHypothesis =>
      have later := inductionHypothesis other
      rw [List.map_cons, List.intercalate_cons_cons, List.intercalate_cons_cons,
        List.intercalate_cons_cons_left, ← later]
      simp

/-- The characters of joined texts are those of the texts and the separator. -/
theorem mem_intercalate {separator : Text} {texts : List Text} {char : Char}
    (member : char ∈ separator.intercalate texts) :
    char ∈ separator ∨ ∃ text ∈ texts, char ∈ text := by
  induction texts with
  | nil => exact absurd member List.not_mem_nil
  | cons text others inductionHypothesis =>
      cases others with
      | nil =>
          rw [List.intercalate_singleton] at member
          exact Or.inr ⟨text, List.mem_cons_self, member⟩
      | cons second others =>
          rw [List.intercalate_cons_cons, List.mem_append, List.mem_append] at member
          rcases member with (inText | inSeparator) | later
          · exact Or.inr ⟨text, List.mem_cons_self, inText⟩
          · exact Or.inl inSeparator
          · exact (inductionHypothesis later).imp_right fun ⟨found, inOthers, inFound⟩ =>
              ⟨found, List.mem_cons_of_mem _ inOthers, inFound⟩

/-- Joined texts keep their characters. -/
theorem mem_intercalate_of_mem {separator : Text} {texts : List Text} {text : Text} {char : Char}
    (isText : text ∈ texts) (member : char ∈ text) : char ∈ separator.intercalate texts := by
  induction texts with
  | nil => exact absurd isText List.not_mem_nil
  | cons first others inductionHypothesis =>
      cases others with
      | nil =>
          obtain rfl := List.mem_singleton.mp isText
          rwa [List.intercalate_singleton]
      | cons second others =>
          rw [List.intercalate_cons_cons, List.append_assoc]
          rcases List.mem_cons.mp isText with rfl | later
          · exact List.mem_append_left _ member
          · exact List.mem_append_right _ (List.mem_append_right _ (inductionHypothesis later))

/-- The characters of a piece are in the text. -/
theorem mem_of_mem_splitOn {separator char : Char} {text piece : Text}
    (isPiece : piece ∈ text.splitOn separator) (member : char ∈ piece) : char ∈ text := by
  have whole : List.intercalate [separator] (text.splitOn separator) = text :=
    List.intercalate_splitOn separator
  rw [← whole]
  exact mem_intercalate_of_mem isPiece member

/-- Joined texts start with the first text. -/
theorem head?_intercalate {separator : Text} {texts : List Text}
    (filled : ∀ text ∈ texts, text ≠ []) {char : Char}
    (first : (separator.intercalate texts).head? = some char) :
    ∃ text ∈ texts, text.head? = some char := by
  cases texts with
  | nil => contradiction
  | cons text others =>
      refine ⟨text, List.mem_cons_self, ?_⟩
      obtain ⟨start, rest, same⟩ := List.exists_cons_of_ne_nil (filled text List.mem_cons_self)
      rw [same, List.intercalate_cons_cons_left] at first
      rw [same]
      exact first

/-- Joined texts end with the last text. -/
theorem getLast?_intercalate {separator : Text} {texts : List Text}
    (filled : ∀ text ∈ texts, text ≠ []) {char : Char}
    (last : (separator.intercalate texts).getLast? = some char) :
    ∃ text ∈ texts, text.getLast? = some char := by
  induction texts with
  | nil => contradiction
  | cons text others inductionHypothesis =>
      cases others with
      | nil =>
          rw [List.intercalate_singleton] at last
          exact ⟨text, List.mem_cons_self, last⟩
      | cons second others =>
          obtain ⟨start, rest, same⟩ :=
            List.exists_cons_of_ne_nil (filled second (List.mem_cons_of_mem _ List.mem_cons_self))
          have filledLater : separator.intercalate (second :: others) ≠ [] := by
            rw [same, List.intercalate_cons_cons_left]
            exact List.cons_ne_nil _ _
          rw [List.intercalate_cons_cons, List.getLast?_append_of_ne_nil _ filledLater] at last
          obtain ⟨found, member, ends⟩ := inductionHypothesis
            (fun other member => filled other (List.mem_cons_of_mem _ member)) last
          exact ⟨found, List.mem_cons_of_mem _ member, ends⟩

/-- Characters that are not white space go on with the current word. -/
theorem wordsFrom_append {word : Text} (plain : ∀ char ∈ word, isBlankChar char = false)
    (current rest : Text) :
    wordsFrom current (word ++ rest) = wordsFrom (current ++ word) rest := by
  induction word generalizing current with
  | nil => simp
  | cons char word inductionHypothesis =>
      have later := inductionHypothesis (fun other member =>
        plain other (List.mem_cons_of_mem _ member)) (current ++ [char])
      rw [List.cons_append, wordsFrom, plain char List.mem_cons_self]
      simpa using later

theorem words_cons_blank {blank : Char} (isBlank : isBlankChar blank = true) (text : Text) :
    words (blank :: text) = words text := by
  simp [words, wordsFrom, isBlank]

/-- A word ends at white space. -/
theorem words_append_blank {word : Text} (filled : word ≠ [])
    (plain : ∀ char ∈ word, isBlankChar char = false) {blank : Char}
    (isBlank : isBlankChar blank = true) (rest : Text) :
    words (word ++ blank :: rest) = word :: words rest := by
  rw [words, wordsFrom_append plain, List.nil_append, wordsFrom, isBlank]
  simp [filled, words]

theorem words_spaces (count : Nat) (text : Text) :
    words (List.replicate count ' ' ++ text) = words text := by
  induction count with
  | zero => rfl
  | succ count inductionHypothesis =>
      rw [List.replicate_succ, List.cons_append, words_cons_blank (by decide), inductionHypothesis]

/-- A word without white space after it is the last one. -/
theorem words_word {word : Text} (filled : word ≠ [])
    (plain : ∀ char ∈ word, isBlankChar char = false) : words word = [word] := by
  have all := wordsFrom_append plain [] []
  rw [List.append_nil] at all
  rw [words, all, List.nil_append, wordsFrom]
  simp [filled]

/-- The invariant of the scan for words: the current word has no white space and lies in the whole
text. -/
theorem mem_wordsFrom {whole current text word : Text}
    (started : ∀ char ∈ current, isBlankChar char = false ∧ char ∈ whole)
    (inside : ∀ char ∈ text, char ∈ whole) (member : word ∈ wordsFrom current text) :
    word ≠ [] ∧ ∀ char ∈ word, isBlankChar char = false ∧ char ∈ whole := by
  induction text generalizing current with
  | nil =>
      rw [wordsFrom] at member
      split at member
      next => exact absurd member List.not_mem_nil
      next filled =>
        obtain rfl := List.mem_singleton.mp member
        exact ⟨by simpa using filled, started⟩
  | cons char text inductionHypothesis =>
      obtain ⟨charInside, restInside⟩ := List.forall_mem_cons.mp inside
      have restart := @inductionHypothesis [] (by simp) restInside
      rw [wordsFrom] at member
      split at member
      next =>
        split at member
        next => exact restart member
        next filled =>
          rcases List.mem_cons.mp member with rfl | later
          · exact ⟨by simpa using filled, started⟩
          · exact restart later
      next plain =>
        refine inductionHypothesis ?_ restInside member
        intro other inCurrent
        rcases List.mem_append.mp inCurrent with before | last
        · exact started other before
        · obtain rfl := List.mem_singleton.mp last
          exact ⟨Bool.eq_false_iff.mpr plain, charInside⟩

/-- A word is a part of the text with at least one character and without white space. -/
theorem mem_words {text word : Text} (member : word ∈ words text) :
    word ≠ [] ∧ ∀ char ∈ word, isBlankChar char = false ∧ char ∈ text :=
  mem_wordsFrom (by simp) (fun _ => id) member

/-- Nothing is trimmed from a text that begins and ends without white space. -/
theorem trim_eq_self {text : Text} (plainHead : ∀ char, text.head? = some char →
      isBlankChar char = false)
    (plainLast : ∀ char, text.getLast? = some char → isBlankChar char = false) :
    trim text = text := by
  have start : trimStart text = text := by
    cases text with
    | nil => rfl
    | cons char rest => simp [trimStart, plainHead char rfl]
  rw [trim, start, trimEnd]
  rcases List.eq_nil_or_concat text with empty | ⟨before, last, filled⟩
  · rw [empty]
    rfl
  · rw [List.concat_eq_append] at filled
    have lastPlain : isBlankChar last = false := plainLast last (by simp [filled])
    rw [filled, dropEndWhile_append_cons _ before lastPlain]
    rfl

@[simp] theorem trim_trim (text : Text) : trim (trim text) = trim text :=
  trim_eq_self (fun _ first => isBlankChar_of_trim (Or.inl first))
    fun _ last => isBlankChar_of_trim (Or.inr last)

end HouseStyle.Text
