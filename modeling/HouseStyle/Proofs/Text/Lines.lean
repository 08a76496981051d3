/-
This file proves how the lines of a text depend on the line feeds in it and around it.
-/

import HouseStyle.Text.Search

namespace HouseStyle.Text

theorem consFirst_append (char : Char) {first : List Text} (filled : first ≠ [])
    (second : List Text) : consFirst char (first ++ second) = consFirst char first ++ second := by
  cases first with
  | nil => exact absurd rfl filled
  | cons line first => rfl

theorem length_consFirst (char : Char) {lines : List Text} (filled : lines ≠ []) :
    (consFirst char lines).length = lines.length := by
  cases lines with
  | nil => exact absurd rfl filled
  | cons line lines => rfl

/-- A character in front of a text changes its first line only. -/
theorem mem_consFirst {char : Char} {lines : List Text} {line : Text}
    (member : line ∈ consFirst char lines) :
    line = [char] ∨ (∃ old ∈ lines, line = char :: old) ∨ line ∈ lines := by
  cases lines with
  | nil => exact Or.inl (List.mem_singleton.mp member)
  | cons first lines =>
      rcases List.mem_cons.mp member with rfl | later
      · exact Or.inr (Or.inl ⟨first, List.mem_cons_self, rfl⟩)
      · exact Or.inr (Or.inr (List.mem_cons_of_mem _ later))

theorem lines_ne_nil {text : Text} (filled : text ≠ []) : lines text ≠ [] := by
  fun_cases lines text with
  | case1 => exact absurd rfl filled
  | case2 rest => exact List.cons_ne_nil _ _
  | case3 rest => exact List.cons_ne_nil _ _
  | case4 char rest =>
      cases lines rest <;> exact List.cons_ne_nil _ _

/-- A character that ends no line belongs to the first line. -/
theorem lines_cons {char : Char} {rest : Text} (noBreak : char ≠ '\n')
    (noReturn : char = '\r' → rest.head? ≠ some '\n') :
    lines (char :: rest) = consFirst char (lines rest) := by
  rw [lines]
  · exact noBreak
  · rintro tail same rfl
    exact noReturn same rfl

/-- What remains of a text that ends with a line feed is empty or ends with it too. -/
theorem ended_of_cons {first : Char} {others : Text}
    (ended : first :: others = [] ∨ (first :: others).getLast? = some '\n') :
    others = [] ∨ others.getLast? = some '\n' := by
  cases others with
  | nil => exact Or.inl rfl
  | cons second others => simpa using ended

/-- What follows a line feed has lines of its own. -/
theorem lines_append {text : Text} (ended : text = [] ∨ text.getLast? = some '\n') (rest : Text) :
    lines (text ++ rest) = lines text ++ lines rest := by
  fun_induction lines text with
  | case1 => rfl
  | case2 text inductionHypothesis =>
      rw [List.cons_append, lines, inductionHypothesis (ended_of_cons ended), List.cons_append]
  | case3 text inductionHypothesis =>
      rw [List.cons_append, List.cons_append, lines,
        inductionHypothesis (ended_of_cons (by simpa using ended)), List.cons_append]
  | case4 char text noBreak noReturn inductionHypothesis =>
      -- The last character is a line feed and this one is not, so the line goes on.
      have filled : text ≠ [] := by
        rintro rfl
        exact noBreak (by simpa using ended)
      rw [List.cons_append, lines_cons noBreak, inductionHypothesis (ended_of_cons ended),
        consFirst_append char (lines_ne_nil filled)]
      intro same next
      obtain ⟨first, others, rfl⟩ := List.exists_cons_of_ne_nil filled
      obtain rfl : first = '\n' := by simpa using next
      exact noReturn others same rfl

/-- Line feeds alone are empty lines. -/
theorem lines_lineFeeds (count : Nat) :
    lines (List.replicate count '\n') = List.replicate count [] := by
  induction count with
  | zero => rfl
  | succ count inductionHypothesis =>
      rw [List.replicate_succ, lines, inductionHypothesis, List.replicate_succ]

/-- A text that ends with a line feed has as many lines as line feeds. -/
theorem length_lines {text : Text} (ended : text = [] ∨ text.getLast? = some '\n') :
    (lines text).length = text.count '\n' := by
  fun_induction lines text with
  | case1 => rfl
  | case2 rest inductionHypothesis =>
      rw [List.length_cons, inductionHypothesis (ended_of_cons ended), List.count_cons_self]
  | case3 rest inductionHypothesis =>
      rw [List.length_cons, inductionHypothesis (ended_of_cons (by simpa using ended))]
      simp
  | case4 char rest noBreak _ inductionHypothesis =>
      have filled : rest ≠ [] := by
        rintro rfl
        exact noBreak (by simpa using ended)
      rw [length_consFirst char (lines_ne_nil filled), inductionHypothesis (ended_of_cons ended),
        List.count_cons_of_ne noBreak]

/-- A line has no line feed. -/
theorem not_mem_of_mem_lines {text line : Text} (member : line ∈ lines text) : '\n' ∉ line := by
  fun_induction lines text generalizing line with
  | case1 => exact absurd member List.not_mem_nil
  | case2 rest inductionHypothesis =>
      rcases List.mem_cons.mp member with rfl | later
      · exact List.not_mem_nil
      · exact inductionHypothesis later
  | case3 rest inductionHypothesis =>
      rcases List.mem_cons.mp member with rfl | later
      · exact List.not_mem_nil
      · exact inductionHypothesis later
  | case4 char rest noBreak _ inductionHypothesis =>
      have different : '\n' ≠ char := fun same => noBreak same.symm
      rcases mem_consFirst member with rfl | ⟨old, isLine, rfl⟩ | isLine
      · simp [different]
      · simp [different, inductionHypothesis isLine]
      · exact inductionHypothesis isLine

section LineEnds

variable {text : Text}

/-- Every line feed gets a carriage return in front of it. -/
def withReturns (text : Text) : Text :=
  text.flatMap fun char => if char = '\n' then ['\r', '\n'] else [char]

/-- The carriage returns belong to the ends of the lines. -/
theorem lines_withReturns (plain : '\r' ∉ text) : lines (withReturns text) = lines text := by
  induction text with
  | nil => rfl
  | cons char rest inductionHypothesis =>
      simp only [List.mem_cons, not_or] at plain
      have noReturn := Ne.symm plain.1
      rw [withReturns, List.flatMap_cons, ← withReturns]
      split
      next isBreak =>
        rw [isBreak, List.cons_append, List.cons_append, List.nil_append, lines, lines,
          inductionHypothesis plain.2]
      next goesOn =>
        rw [List.cons_append, List.nil_append, lines_cons goesOn (absurd · noReturn),
          lines_cons goesOn (absurd · noReturn), inductionHypothesis plain.2]

/-- The last line of a text stays as it is if it is ended. -/
theorem lines_append_end {ending : Text} (isEnd : lines ending = [[]]) (plain : '\r' ∉ text)
    (filled : text ≠ []) (isOpen : text.getLast? ≠ some '\n') :
    lines (text ++ ending) = lines text := by
  induction text with
  | nil => exact absurd rfl filled
  | cons char rest inductionHypothesis =>
      simp only [List.mem_cons, not_or] at plain
      have noReturn := Ne.symm plain.1
      rw [List.cons_append]
      by_cases last : rest = []
      · have goesOn : char ≠ '\n' := by simpa [last] using isOpen
        rw [last, List.nil_append, lines_cons goesOn (absurd · noReturn),
          lines_cons goesOn (absurd · noReturn), isEnd]
        rfl
      · rw [List.getLast?_cons_of_ne_nil last] at isOpen
        by_cases isBreak : char = '\n'
        · rw [isBreak, lines, lines, inductionHypothesis plain.2 last isOpen]
        · rw [lines_cons isBreak (absurd · noReturn), lines_cons isBreak (absurd · noReturn),
            inductionHypothesis plain.2 last isOpen]

end LineEnds

end HouseStyle.Text
