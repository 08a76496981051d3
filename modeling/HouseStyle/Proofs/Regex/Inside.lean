/-
This file proves that the groups of a match consist of characters of the searched text.
-/

import HouseStyle.Regex.Capture

namespace HouseStyle.Regex

/-- All characters that follow the cursor or stand in its groups have a property. -/
structure Cursor.Within (holds : Char → Prop) (cursor : Cursor) : Prop where
  rest : ∀ char ∈ cursor.rest, holds char
  groups : ∀ group ∈ cursor.groups, ∀ char ∈ group.2, holds char

/-- The step only goes on at cursors whose characters have the property. -/
def StaysWithin (holds : Char → Prop) (step : Continuation → Continuation) : Prop :=
  ∀ next cursor last, cursor.Within holds → step next cursor = some last →
    ∃ later : Cursor, later.Within holds ∧ next later = some last

section Steps

theorem eq_some_of_orElse {first second : Option Cursor} {last : Cursor}
    (found : (first <|> second) = some last) : first = some last ∨ second = some last := by
  cases first with
  | none => exact Or.inr found
  | some cursor => exact Or.inl found

variable {holds : Char → Prop} {step : Continuation → Continuation}

/-- A number of rounds stays within the characters of the text if one round does. -/
theorem StaysWithin.exactly (stays : StaysWithin holds step) (rounds : Nat) :
    StaysWithin holds (exactly step rounds) := by
  intro next cursor last within found
  induction rounds generalizing cursor with
  | zero => exact ⟨cursor, within, found⟩
  | succ rounds inductionHypothesis =>
      obtain ⟨later, laterWithin, goesOn⟩ := stays _ cursor last within found
      exact inductionHypothesis later laterWithin goesOn

/-- Rounds up to a number stay within the characters of the text if one round does. -/
theorem StaysWithin.atMost (stays : StaysWithin holds step) (greedy : Bool) (rounds : Nat) :
    StaysWithin holds (atMost step greedy rounds) := by
  intro next cursor last within found
  induction rounds generalizing cursor with
  | zero => exact ⟨cursor, within, found⟩
  | succ rounds inductionHypothesis =>
      have more {first : Cursor} (started : step (fun later =>
          if later.rest.length < first.rest.length then Regex.atMost step greedy rounds next later
          else none) cursor = some last) :
          ∃ later : Cursor, later.Within holds ∧ next later = some last := by
        obtain ⟨later, laterWithin, goesOn⟩ := stays _ cursor last within started
        obtain ⟨_, goesOn⟩ := Option.ite_none_right_eq_some.mp goesOn
        exact inductionHypothesis later laterWithin goesOn
      rw [Regex.atMost] at found
      cases greedy with
      | true =>
          rcases eq_some_of_orElse found with started | stopped
          · exact more started
          · exact ⟨cursor, within, stopped⟩
      | false =>
          rcases eq_some_of_orElse found with stopped | started
          · exact ⟨cursor, within, stopped⟩
          · exact more started

end Steps

/-- A match goes on at cursors whose characters come from the text. -/
theorem staysWithin_follow (holds : Char → Prop) (expr : Regex) :
    StaysWithin holds expr.follow := by
  induction expr with
  | empty => exact fun next cursor last within found => ⟨cursor, within, found⟩
  | one set =>
      intro next cursor last within found
      simp only [follow] at found
      split at found
      next => contradiction
      next char rest shape =>
        obtain ⟨_, goesOn⟩ := Option.ite_none_right_eq_some.mp found
        refine ⟨{ cursor with before := some char, rest }, ⟨?_, within.groups⟩, goesOn⟩
        intro other member
        exact within.rest other (shape ▸ List.mem_cons_of_mem _ member)
  | check assertion =>
      intro next cursor last within found
      rw [follow] at found
      obtain ⟨_, goesOn⟩ := Option.ite_none_right_eq_some.mp found
      exact ⟨cursor, within, goesOn⟩
  | sequence first second inFirst inSecond =>
      intro next cursor last within found
      obtain ⟨later, laterWithin, goesOn⟩ := inFirst _ cursor last within found
      exact inSecond next later last laterWithin goesOn
  | choice first second inFirst inSecond =>
      intro next cursor last within found
      rw [follow] at found
      rcases eq_some_of_orElse found with isFirst | isSecond
      · exact inFirst next cursor last within isFirst
      · exact inSecond next cursor last within isSecond
  | repeated body count greedy inBody =>
      intro next cursor last within found
      obtain ⟨later, laterWithin, goesOn⟩ :=
        inBody.exactly count.least _ cursor last within found
      exact inBody.atMost greedy _ next later last laterWithin goesOn
  | capture number body inBody =>
      intro next cursor last within found
      obtain ⟨later, laterWithin, goesOn⟩ := inBody _ cursor last within found
      -- The group is a part of the rest at its beginning, not of the rest behind it.
      let text := cursor.rest.take (cursor.rest.length - later.rest.length)
      refine ⟨{ later with groups := (number, text) :: later.groups }, ⟨laterWithin.rest, ?_⟩,
        goesOn⟩
      intro group member
      rcases List.mem_cons.mp member with rfl | earlier
      · exact fun char inGroup => within.rest char (List.mem_of_mem_take inGroup)
      · exact laterWithin.groups group earlier

/-- A match stays within the characters of its text. -/
theorem within_of_matchAt? {holds : Char → Prop} {expr : Regex} {before : Option Char} {text : Text}
    (all : ∀ char ∈ text, holds char) {cursor : Cursor}
    (found : expr.matchAt? before text = some cursor) : cursor.Within holds := by
  have started : Cursor.Within holds ⟨before, text, []⟩ :=
    ⟨all, fun _ member => absurd member List.not_mem_nil⟩
  obtain ⟨later, within, same⟩ := staysWithin_follow holds expr _ _ cursor started found
  rwa [← Option.some.inj same]

/-- A captured text has only characters of the text. -/
theorem Cursor.Within.group {holds : Char → Prop} {cursor : Cursor} (within : cursor.Within holds)
    {number : Nat} {capture : Text} (captured : capture ∈ (cursor.groups.lookup number).toList) :
    ∀ char ∈ capture, holds char := by
  obtain ⟨before, after, shape, -⟩ := List.lookup_eq_some_iff.mp (Option.mem_toList.mp captured)
  exact within.groups (number, capture) (by simp [shape])

/-- A captured text consists of characters of the searched text. -/
theorem mem_captures {holds : Char → Prop} {expr : Regex} {number : Nat}
    {before : Option Char} {text capture : Text} (all : ∀ char ∈ text, holds char)
    (captured : capture ∈ expr.captures number before text) : ∀ char ∈ capture, holds char := by
  fun_induction captures expr number before text with
  | case1 before text cursor found groups _ inductionHypothesis =>
      have within := within_of_matchAt? all found
      rcases List.mem_append.mp captured with here | later
      · exact within.group here
      · exact inductionHypothesis within.rest later
  | case2 before cursor groups found => exact (within_of_matchAt? all found).group captured
  | case3 before cursor groups char rest found _ inductionHypothesis =>
      rcases List.mem_append.mp captured with here | later
      · exact (within_of_matchAt? all found).group here
      · exact inductionHypothesis (List.forall_mem_cons.mp all).2 later
  | case4 => exact absurd captured List.not_mem_nil
  | case5 before char rest _ inductionHypothesis =>
      exact inductionHypothesis (List.forall_mem_cons.mp all).2 captured

end HouseStyle.Regex
