/-
This file proves how the parenthesized part of a signature depends on the text around it.
-/

import HouseStyle.Proofs.Text.Basic
import HouseStyle.Source.Signature

namespace HouseStyle.Signature

/-- A character that is no parenthesis is part of the list. -/
theorem untilClosed_cons {char : Char} (noOpen : char ≠ '(') (noClose : char ≠ ')') (depth : Nat)
    (rest : Text) :
    untilClosed depth (char :: rest) = (untilClosed depth rest).map (char :: ·) := by
  rw [untilClosed]
  · exact noOpen
  · exact noClose

/-- Text after the closing parenthesis does not matter. -/
theorem untilClosed_append {depth : Nat} {text inner : Text}
    (found : untilClosed depth text = some inner) (rest : Text) :
    untilClosed depth (text ++ rest) = some inner := by
  fun_induction untilClosed depth text generalizing inner with
  | case1 depth => simp at found
  | case2 depth text inductionHypothesis =>
      obtain ⟨part, closed, rfl⟩ := Option.map_eq_some_iff.mp found
      rw [List.cons_append, untilClosed, inductionHypothesis closed]
      rfl
  | case3 depth text last =>
      rw [List.cons_append, untilClosed, if_pos last]
      exact found
  | case4 depth text more inductionHypothesis =>
      obtain ⟨part, closed, rfl⟩ := Option.map_eq_some_iff.mp found
      rw [List.cons_append, untilClosed, if_neg more, inductionHypothesis closed]
      rfl
  | case5 depth char text noOpen noClose inductionHypothesis =>
      obtain ⟨part, closed, rfl⟩ := Option.map_eq_some_iff.mp found
      rw [List.cons_append, untilClosed_cons noOpen noClose, inductionHypothesis closed]
      rfl

/-- Text without a closing parenthesis closes nothing. -/
theorem untilClosed_append_eq_none {depth : Nat} {text : Text}
    (opened : untilClosed depth text = none) {rest : Text} (absent : ')' ∉ rest) :
    untilClosed depth (text ++ rest) = none := by
  fun_induction untilClosed depth text with
  | case1 depth =>
      rw [List.nil_append]
      clear opened
      fun_induction untilClosed depth rest with
      | case1 depth => rfl
      | case2 depth text inductionHypothesis =>
          rw [inductionHypothesis (by simpa using absent)]
          rfl
      | case3 depth text _ => simp at absent
      | case4 depth text _ _ => simp at absent
      | case5 depth char text _ _ inductionHypothesis =>
          rw [inductionHypothesis fun member => absent (List.mem_cons_of_mem _ member)]
          rfl
  | case2 depth text inductionHypothesis =>
      rw [List.cons_append, untilClosed, inductionHypothesis (Option.map_eq_none_iff.mp opened)]
      rfl
  | case3 depth text last => simp at opened
  | case4 depth text more inductionHypothesis =>
      rw [List.cons_append, untilClosed, if_neg more,
        inductionHypothesis (Option.map_eq_none_iff.mp opened)]
      rfl
  | case5 depth char text noOpen noClose inductionHypothesis =>
      rw [List.cons_append, untilClosed_cons noOpen noClose,
        inductionHypothesis (Option.map_eq_none_iff.mp opened)]
      rfl

/-- The first parenthesis begins the parameter list. -/
theorem parenthesized?_cut {before : Text} (absent : '(' ∉ before) (after : Text) :
    parenthesized? (before ++ '(' :: after) = untilClosed 1 after := by
  rw [parenthesized?, Text.cutAt?_append absent]
  rfl

/-- Text after a closed list does not matter. -/
theorem parenthesized?_append {text inner : Text} (found : parenthesized? text = some inner)
    (rest : Text) : parenthesized? (text ++ rest) = some inner := by
  simp only [parenthesized?, Option.bind_eq_some_iff] at found
  obtain ⟨⟨before, after⟩, cut, closed⟩ := found
  obtain ⟨shape, absent⟩ := Text.cutAt?_spec cut
  rw [shape, List.append_assoc, List.cons_append, parenthesized?_cut absent]
  exact untilClosed_append closed rest

/-- Text without parentheses changes nothing at the end of a signature. -/
theorem parenthesized?_append_plain (text : Text) {rest : Text} (noOpen : '(' ∉ rest)
    (noClose : ')' ∉ rest) : parenthesized? (text ++ rest) = parenthesized? text := by
  cases cut : Text.cutAt? '(' text with
  | none =>
      have absent : '(' ∉ text ++ rest := by
        simp [Text.cutAt?_eq_none_iff.mp cut, noOpen]
      rw [parenthesized?, parenthesized?, cut, Text.cutAt?_eq_none_iff.mpr absent]
  | some parts =>
      obtain ⟨before, after⟩ := parts
      obtain ⟨shape, absent⟩ := Text.cutAt?_spec cut
      rw [shape, List.append_assoc, List.cons_append, parenthesized?_cut absent,
        parenthesized?_cut absent]
      cases closed : untilClosed 1 after with
      | none => exact untilClosed_append_eq_none closed noClose
      | some inner => exact untilClosed_append closed rest

/-- White space around a signature does not count. -/
theorem parenthesized?_trim (text : Text) :
    parenthesized? (Text.trim text) = parenthesized? text := by
  have plain {blank : Text} (all : ∀ char ∈ blank, Text.isBlankChar char = true) :
      '(' ∉ blank ∧ ')' ∉ blank := by
    have isBlank := List.all_eq_true.mpr all
    exact ⟨Text.not_mem_of_isBlank isBlank (by decide), Text.not_mem_of_isBlank isBlank (by decide)⟩
  obtain ⟨before, after, shape, blankBefore, blankAfter⟩ := Text.trim_spec text
  calc
    parenthesized? (Text.trim text) = parenthesized? (before ++ Text.trim text) := by
      rw [parenthesized?, parenthesized?, Text.cutAt?_append_left (plain blankBefore).1]
      cases Text.cutAt? '(' (Text.trim text) <;> rfl
    _ = parenthesized? (before ++ Text.trim text ++ after) :=
      (parenthesized?_append_plain _ (plain blankAfter).1 (plain blankAfter).2).symm
    _ = parenthesized? text := by rw [← shape]

/-- A parenthesis of the text. -/
def isParenthesis (char : Char) : Bool :=
  char == '(' || char == ')'

/-- Only the parentheses decide whether the text closes. -/
theorem isSome_untilClosed_filter (depth : Nat) (text : Text) :
    (untilClosed depth (text.filter isParenthesis)).isSome = (untilClosed depth text).isSome := by
  fun_induction untilClosed depth text with
  | case1 depth => rfl
  | case2 depth text inductionHypothesis =>
      rw [List.filter_cons_of_pos rfl, untilClosed]
      simpa using inductionHypothesis
  | case3 depth text last =>
      rw [List.filter_cons_of_pos rfl, untilClosed, if_pos last]
  | case4 depth text more inductionHypothesis =>
      rw [List.filter_cons_of_pos rfl, untilClosed, if_neg more]
      simpa using inductionHypothesis
  | case5 depth char text noOpen noClose inductionHypothesis =>
      have other : ¬ isParenthesis char = true := by
        simp only [isParenthesis, Bool.or_eq_true, beq_iff_eq, not_or]
        exact ⟨noOpen, noClose⟩
      rw [List.filter_cons_of_neg other]
      simpa using inductionHypothesis

/-- Some part of the text at its beginning has one more closing than opening parenthesis for each
open one. -/
theorem isSome_untilClosed {depth : Nat} (positive : 0 < depth) {inner : Text}
    (closes : inner.count ')' = inner.count '(' + depth) (outer : Text) :
    (untilClosed depth (inner ++ outer)).isSome = true := by
  induction inner generalizing depth with
  | nil => simp at closes; omega
  | cons char inner inductionHypothesis =>
      by_cases opens : char = '('
      · subst opens
        have later := @inductionHypothesis (depth + 1) (by omega) (by simp at closes; omega)
        simpa [untilClosed] using later
      by_cases ends : char = ')'
      · subst ends
        rw [List.cons_append, untilClosed]
        split
        next => rfl
        next more =>
          have later := @inductionHypothesis (depth - 1) (by omega) (by simp at closes; omega)
          simpa using later
      · have later := inductionHypothesis positive (by simpa [opens, ends] using closes)
        rw [List.cons_append, untilClosed_cons opens ends]
        simpa using later

/-- The closing parenthesis is the first one that has no partner. -/
theorem untilClosed_spec {depth : Nat} (positive : 0 < depth) {text inner : Text}
    (found : untilClosed depth text = some inner) :
    ∃ outer, text = inner ++ ')' :: outer ∧ inner.count ')' + 1 = inner.count '(' + depth := by
  fun_induction untilClosed depth text generalizing inner with
  | case1 depth => simp at found
  | case2 depth text inductionHypothesis =>
      obtain ⟨part, closed, rfl⟩ := Option.map_eq_some_iff.mp found
      obtain ⟨outer, shape, counts⟩ := inductionHypothesis (by omega) closed
      refine ⟨outer, by rw [shape]; rfl, ?_⟩
      simp only [List.count_cons_self, List.count_cons_of_ne (show '(' ≠ ')' by decide)]
      omega
  | case3 depth text last =>
      obtain rfl : [] = inner := by simpa using found
      exact ⟨text, rfl, by simp; omega⟩
  | case4 depth text more inductionHypothesis =>
      obtain ⟨part, closed, rfl⟩ := Option.map_eq_some_iff.mp found
      obtain ⟨outer, shape, counts⟩ := inductionHypothesis (by omega) closed
      refine ⟨outer, by rw [shape]; rfl, ?_⟩
      simp only [List.count_cons_self, List.count_cons_of_ne (show ')' ≠ '(' by decide)]
      omega
  | case5 depth char text noOpen noClose inductionHypothesis =>
      obtain ⟨part, closed, rfl⟩ := Option.map_eq_some_iff.mp found
      obtain ⟨outer, shape, counts⟩ := inductionHypothesis positive closed
      refine ⟨outer, by rw [shape]; rfl, ?_⟩
      have open' : char ≠ '(' := noOpen
      have close' : char ≠ ')' := noClose
      simpa [List.count_cons_of_ne, open', close'] using counts

/-- The whole lines of a signature, each after a space. -/
def joinLines (lines : List Text) : Text :=
  lines.flatMap fun line => ' ' :: Text.dropEndWhile (· == '\r') line

/-- Later lines count only if no line before them ends the signature. -/
theorem collectFrom_append (depth : Nat) (first second : List Text) :
    collectFrom depth (first ++ second) = collectFrom depth first ∨
      (collectFrom depth first = joinLines first ∧
        ∃ later,
          collectFrom depth (first ++ second) = joinLines first ++ collectFrom later second) := by
  induction first generalizing depth with
  | nil => exact Or.inr ⟨rfl, depth, rfl⟩
  | cons line first inductionHypothesis =>
      rw [List.cons_append, collectFrom, collectFrom]
      split
      next => exact Or.inl rfl
      next later _ =>
        split
        next => exact Or.inl rfl
        next =>
          rcases inductionHypothesis later with same | ⟨whole, final, more⟩
          · exact Or.inl (by rw [same])
          · exact Or.inr ⟨by rw [whole]; rfl, final, by rw [more]; simp [joinLines]⟩

/-- The parenthesis that opens first on the first line closes within the lines. -/
def ClosesWithin : List Text → Prop
  | [] => False
  | line :: lines =>
      ∃ inner outer, (line.dropWhile (· ≠ '(')).drop 1 ++ lines.flatten = inner ++ outer ∧
        inner.count ')' = inner.count '(' + 1

/-- A signature ends within its lines if its first parenthesis is closed there. -/
theorem closesWithin_iff (line : Text) (lines : List Text) :
    ClosesWithin (line :: lines) ↔
      (untilClosed 1 ((line.dropWhile (· ≠ '(')).drop 1 ++ lines.flatten)).isSome = true := by
  constructor
  · rintro ⟨inner, outer, shape, counts⟩
    rw [shape]
    exact isSome_untilClosed (by decide) counts outer
  · intro found
    obtain ⟨inner, closed⟩ := Option.isSome_iff_exists.mp found
    obtain ⟨outer, shape, counts⟩ := untilClosed_spec (by decide) closed
    exact ⟨inner ++ [')'], outer, by simpa using shape, by simpa using counts⟩

instance (lines : List Text) : Decidable (ClosesWithin lines) :=
  match lines with
  | [] => .isFalse id
  | line :: lines => decidable_of_iff _ (closesWithin_iff line lines).symm

theorem filter_isParenthesis_dropEndWhile (text : Text) :
    (Text.dropEndWhile (· == '\r') text).filter isParenthesis = text.filter isParenthesis := by
  obtain ⟨removed, shape, returns⟩ := Text.dropEndWhile_spec (· == '\r') text
  have plain : removed.filter isParenthesis = [] := by
    rw [List.filter_eq_nil_iff]
    intro char member
    have same : char = '\r' := by simpa using returns char member
    rw [same]
    decide
  calc
    (Text.dropEndWhile (· == '\r') text).filter isParenthesis =
        (Text.dropEndWhile (· == '\r') text ++ removed).filter isParenthesis := by
      rw [List.filter_append, plain, List.append_nil]
    _ = text.filter isParenthesis := by rw [← shape]

/-- Joined lines have the parentheses of all lines. -/
theorem filter_isParenthesis_joinLines (lines : List Text) :
    (joinLines lines).filter isParenthesis = lines.flatten.filter isParenthesis := by
  induction lines with
  | nil => rfl
  | cons line lines inductionHypothesis =>
      simp only [joinLines, List.flatMap_cons, List.flatten_cons, List.filter_append] at *
      rw [inductionHypothesis, List.filter_cons_of_neg (by decide),
        filter_isParenthesis_dropEndWhile]

/-- A signature that closes within its lines has a parameter list. -/
theorem isSome_parenthesized?_joinLines {line : Text} {lines : List Text} (opens : '(' ∈ line)
    (closes : ClosesWithin (line :: lines)) :
    (parenthesized? (joinLines (line :: lines))).isSome = true := by
  obtain ⟨inner, outer, shape, counts⟩ := closes
  cases cut : Text.cutAt? '(' line with
  | none => exact absurd opens (Text.cutAt?_eq_none_iff.mp cut)
  | some parts =>
      obtain ⟨before, after⟩ := parts
      obtain ⟨same, absent⟩ := Text.cutAt?_spec cut
      have behind : (line.dropWhile (· ≠ '(')).drop 1 = after := by
        have early : ∀ char ∈ before, decide (char ≠ '(') = true := by
          intro char member
          have different : char ≠ '(' := fun equal => absent (equal ▸ member)
          simpa using different
        rw [same, List.dropWhile_append_of_pos early]
        simp
      have join : joinLines (line :: lines) =
          (' ' :: before) ++ '(' :: (Text.dropEndWhile (· == '\r') after ++ joinLines lines) := by
        have kept := Text.dropEndWhile_append_cons (· == '\r') before
          (show ('(' == '\r') = false from rfl) after
        simp only [joinLines, List.flatMap_cons, same, kept, List.cons_append, List.append_assoc]
      have parens : (Text.dropEndWhile (· == '\r') after ++ joinLines lines).filter isParenthesis =
          (inner ++ outer).filter isParenthesis := by
        rw [← shape, behind, List.filter_append, List.filter_append,
          filter_isParenthesis_dropEndWhile, filter_isParenthesis_joinLines]
      rw [join, parenthesized?_cut (by simpa using absent), ← isSome_untilClosed_filter, parens,
        isSome_untilClosed_filter]
      exact isSome_untilClosed (by decide) counts outer

/-- The lines behind a closed parameter list do not change the parameters. -/
theorem parameters_collect_append {line : Text} {lines : List Text} (opens : '(' ∈ line)
    (closes : ClosesWithin (line :: lines)) (more : List Text) :
    parameters (collect (line :: lines ++ more)) = parameters (collect (line :: lines)) := by
  rcases collectFrom_append 0 (line :: lines) more with same | ⟨whole, later, extended⟩
  · rw [collect, same, collect]
  · obtain ⟨inner, found⟩ :=
      Option.isSome_iff_exists.mp (isSome_parenthesized?_joinLines opens closes)
    rw [parameters, parameters, collect, collect, parenthesized?_trim, parenthesized?_trim, whole,
      extended, parenthesized?_append found, found]

end HouseStyle.Signature
