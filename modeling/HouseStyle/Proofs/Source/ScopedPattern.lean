/-
This file proves that a line is cut at its scope operator as a regular expression would do it.
-/

import HouseStyle.Proofs.Source.ConstantPattern
import HouseStyle.Proofs.Source.QualifiedCall

namespace HouseStyle.Definition

open Regex
open Constant (otherThan contains_otherThan contains_complement captured_sign)

/-- A name and an opening parenthesis behind it. -/
def calledNameExpr : Regex :=
  .sequence (.capture 2 (.repeated (.one (otherThan '(')) ⟨1, none⟩ true)) (.one (.single '('))

/-- The expression for a line that defines a function with a scope. Its first group is the text in
front of the scope operator. -/
def scopedExpr : Regex :=
  anchored (.sequence (.capture 1 (.repeated (.one (.complement (.single '\n'))) ⟨1, none⟩ true))
    (literal "::".toList calledNameExpr))

/-- The expression for scopes is read from its pattern. -/
theorem ofText?_scopedExpr : Regex.ofText? r"^(.+)::([^(]+)\(".toList = .ok scopedExpr := rfl

/-- A qualified call is two colons and a name that is called. -/
theorem calledName?_eq (text : Text) :
    calledName? text = (List.isPrefixOf? "::".toList text).bind nameBefore? := by
  unfold calledName?
  split
  next rest =>
    have behind : List.isPrefixOf? "::".toList (':' :: ':' :: rest) = some rest :=
      List.isPrefixOf?_eq_some_iff_append_eq.mpr rfl
    rw [behind, Option.bind_some]
  next other =>
    have none : List.isPrefixOf? "::".toList text = none :=
      Option.eq_none_iff_forall_ne_some.mpr fun rest found =>
        other rest (List.isPrefixOf?_eq_some_iff_append_eq.mp found).symm
    rw [none, Option.bind_none]

/-- A name has at least one character in front of the parenthesis. -/
theorem isSome_nameBefore?_cons (char : Char) (rest : Text) :
    (nameBefore? (char :: rest)).isSome = (decide (char ≠ '(') && decide ('(' ∈ rest)) := by
  by_cases parenthesis : char = '('
  · simp [nameBefore?, Text.cutAt?, parenthesis]
  · cases cut : Text.cutAt? '(' rest with
    | none =>
        have absent := Text.cutAt?_eq_none_iff.mp cut
        simp [nameBefore?, Text.cutAt?, parenthesis, cut, absent]
    | some parts =>
        have present : '(' ∈ rest := by
          rw [(Text.cutAt?_spec cut).1]
          simp
        simp [nameBefore?, Text.cutAt?, parenthesis, cut, present]

/-- The search for the last parenthesis succeeds if there is one. -/
theorem farthest?_parenthesis {held : Option (Option Text)} (text : Text) :
    farthest? '(' (fun text => if text.head? = some '(' then held else none) text =
      if '(' ∈ text then held else none := by
  induction text with
  | nil => rfl
  | cons char text inductionHypothesis =>
      rw [farthest?, inductionHypothesis]
      by_cases parenthesis : char = '('
      · simp [parenthesis]
      · by_cases later : '(' ∈ text <;> simp [parenthesis, Ne.symm parenthesis, later]

/-- A name is found if there is one, and the first group stays. -/
theorem captured_calledNameExpr (before : Option Char) (text : Text) (groups : List (Nat × Text)) :
    captured 1 (follow calledNameExpr some ⟨before, text, groups⟩) =
      if (nameBefore? text).isSome then some (groups.lookup 1) else none := by
  let next : Continuation := fun later => follow (.one (.single '(')) some
    { later with groups := (2, text.take (text.length - later.rest.length)) :: later.groups }
  have ends (before : Option Char) (rest : Text) :
      captured 1 (next ⟨before, rest, groups⟩) =
        if rest.head? = some '(' then some (groups.lookup 1) else none :=
    captured_sign (fun _ _ => rfl) '(' rest
  have repetition : follow calledNameExpr some ⟨before, text, groups⟩ =
      follow (.one (otherThan '(')) (fun cursor =>
        atMost (follow (.one (otherThan '('))) true cursor.rest.length next cursor)
        ⟨before, text, groups⟩ := rfl
  rw [repetition]
  cases text with
  | nil => rfl
  | cons char rest =>
      rw [isSome_nameBefore?_cons]
      by_cases parenthesis : char = '('
      · have outside : (otherThan '(').contains char.toNat = false :=
          (contains_otherThan '(' char).trans (by simp [parenthesis])
        rw [follow_one_eq_none (by simpa using outside)]
        simp [parenthesis]
      · have member : (otherThan '(').contains char.toNat = true :=
          (contains_otherThan '(' char).trans (by simp [parenthesis])
        rw [follow_one_cons member,
          captured_atMost (contains_otherThan '(') ends rest (Nat.le_refl _),
          farthest?_parenthesis]
        simp [parenthesis]

/-- The expression for the called name changes no capture of the scope. -/
theorem captured_callExpr (before : Option Char) (text : Text) (groups : List (Nat × Text)) :
    captured 1 (follow (literal "::".toList calledNameExpr) some ⟨before, text, groups⟩) =
      if (calledName? text).isSome then some (groups.lookup 1) else none := by
  rw [follow_literal, calledName?_eq]
  cases List.isPrefixOf? "::".toList text with
  | none => rfl
  | some rest => exact captured_calledNameExpr _ rest groups

/-- The last call behind the first character of a text is the place where the text is cut. -/
theorem farthest?_calledName? {whole front rest : Text} {char : Char} (goesOn : char ≠ '\n')
    (shape : whole = front ++ char :: rest) :
    farthest? '\n' (fun after => if (calledName? after).isSome then
        some (some (whole.take (whole.length - after.length))) else none) rest =
      (splitScope? (char :: rest)).map fun parts => some (front ++ parts.1) := by
  induction rest generalizing char front with
  | nil => rw [splitScope?_cons, if_neg goesOn]; rfl
  | cons second rest inductionHypothesis =>
      have here : whole.take (whole.length - (second :: rest).length) = front ++ [char] := by
        rw [shape, List.append_cons, List.length_append, Nat.add_sub_cancel, List.take_left]
      rw [splitScope?_cons, if_neg goesOn, farthest?, here, Option.map_or, Option.map_map,
        Option.map_map]
      congr 1
      · split
        next isBreak => rw [splitScope?_cons, if_pos isBreak]; rfl
        next continues =>
          rw [inductionHypothesis continues (shape.trans (List.append_cons _ _ _))]
          simp [Function.comp_def]
      · cases calledName? (second :: rest) <;> rfl

/-- The first group of the first match is the text in front of the scope operator. -/
theorem firstCapture?_scopedExpr (line : Text) :
    scopedExpr.firstCapture? 1 line = (splitScope? line).map Prod.fst := by
  refine firstCapture?_anchored ?_
  let next : Continuation := fun later => follow (literal "::".toList calledNameExpr) some
    { later with groups := (1, line.take (line.length - later.rest.length)) :: later.groups }
  have finds (before : Option Char) (rest : Text) : captured 1 (next ⟨before, rest, []⟩) =
      if (calledName? rest).isSome then some (some (line.take (line.length - rest.length)))
        else none :=
    captured_callExpr before rest _
  rw [follow, follow_capture, follow_repeated_one, exactly]
  change captured 1 (follow _ (fun cursor =>
    atMost (follow _) true cursor.rest.length next cursor) ⟨none, line, []⟩) = _
  cases line with
  | nil => rfl
  | cons char rest =>
      by_cases isBreak : char = '\n'
      · have outside : (Unicode.CharSet.complement (.single '\n')).contains char.toNat = false :=
          (contains_complement '\n' char).trans (by simp [isBreak])
        rw [follow_one_eq_none (by simpa using outside), splitScope?_cons, if_pos isBreak]
        rfl
      · have member : (Unicode.CharSet.complement (.single '\n')).contains char.toNat = true :=
          (contains_complement '\n' char).trans (by simp [isBreak])
        rw [follow_one_cons member, captured_atMost (contains_complement '\n') finds rest
          (Nat.le_refl _), farthest?_calledName? isBreak (List.nil_append _).symm, Option.map_map]
        rfl

end HouseStyle.Definition
