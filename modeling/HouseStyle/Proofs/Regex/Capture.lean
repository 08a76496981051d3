/-
This file proves what single characters, literal texts and repetitions match.
-/

import HouseStyle.Regex.Capture
import HouseStyle.Proofs.Text.Basic

namespace HouseStyle.Regex

open Unicode

variable {set : CharSet} {next : Continuation} {before : Option Char} {groups : List (Nat × Text)}

/-- The character in front of the place after a text. -/
theorem characterBefore_cons (char : Char) (text : Text) :
    text.getLast?.or (some char) = (char :: text).getLast?.or before := by
  cases text with
  | nil => rfl
  | cons second text => simp [List.getLast?_eq_some_getLast]

/-- A set matches a character that belongs to it. -/
theorem follow_one_cons {char : Char} (member : set.contains char.toNat = true) (rest : Text) :
    follow (.one set) next ⟨before, char :: rest, groups⟩ = next ⟨some char, rest, groups⟩ := by
  simp [follow, member]

/-- A set does not match a character that does not belong to it, nor the end of the text. -/
theorem follow_one_eq_none {text : Text}
    (stops : ∀ char ∈ text.head?, set.contains char.toNat = false) :
    follow (.one set) next ⟨before, text, groups⟩ = none := by
  cases text with
  | nil => rfl
  | cons char rest => simp [follow, stops char rfl]

/-- A repetition of a set ends in front of a character outside the set. -/
theorem atMost_one_stop {text : Text}
    (stops : ∀ char ∈ text.head?, set.contains char.toNat = false) (rounds : Nat) :
    atMost (follow (.one set)) true rounds next ⟨before, text, groups⟩ =
      next ⟨before, text, groups⟩ := by
  cases rounds with
  | zero => rfl
  | succ rounds =>
      rw [atMost]
      simp only [follow_one_eq_none stops]
      rfl

/-- A greedy repetition goes on while it can, and it stops earlier if what follows fails. -/
theorem atMost_one_cons (char : Char) (rest : Text) (rounds : Nat) :
    atMost (follow (.one set)) true (rounds + 1) next ⟨before, char :: rest, groups⟩ =
      ((if set.contains char.toNat then
          atMost (follow (.one set)) true rounds next ⟨some char, rest, groups⟩ else none) <|>
        next ⟨before, char :: rest, groups⟩) := by
  rw [atMost]
  cases member : set.contains char.toNat with
  | false => simp [follow, member]
  | true => simp [follow, member]

/-- What follows succeeds behind all characters of a run, if it succeeds in front of one of them. -/
theorem isSome_next_run {predicate : Char → Bool}
    (keeps : ∀ before after char rest, predicate char = true →
      (next ⟨before, char :: rest, groups⟩).isSome = true →
        (next ⟨after, rest, groups⟩).isSome = true)
    {text : Text} (succeeds : (next ⟨before, text, groups⟩).isSome = true) :
    (next ⟨(text.takeWhile predicate).getLast?.or before, text.dropWhile predicate,
      groups⟩).isSome = true := by
  induction text generalizing before with
  | nil => exact succeeds
  | cons char text inductionHypothesis =>
      cases member : predicate char with
      | false =>
          rw [List.takeWhile_cons_of_neg (by simp [member]),
            List.dropWhile_cons_of_neg (by simp [member])]
          exact succeeds
      | true =>
          have later := inductionHypothesis (keeps before (some char) char text member succeeds)
          rw [@characterBefore_cons before char] at later
          rwa [List.takeWhile_cons_of_pos member, List.dropWhile_cons_of_pos member]

/-- A greedy repetition takes all characters of a run, if what follows never prefers to get one of
them back. -/
theorem atMost_one_longest {predicate : Char → Bool}
    (same : ∀ char, set.contains char.toNat = predicate char)
    (keeps : ∀ before after char rest, predicate char = true →
      (next ⟨before, char :: rest, groups⟩).isSome = true →
        (next ⟨after, rest, groups⟩).isSome = true)
    (text : Text) {rounds : Nat} (enough : text.length ≤ rounds) :
    atMost (follow (.one set)) true rounds next ⟨before, text, groups⟩ =
      next ⟨(text.takeWhile predicate).getLast?.or before, text.dropWhile predicate, groups⟩ := by
  induction text generalizing before rounds with
  | nil => exact atMost_one_stop (by simp) rounds
  | cons char text inductionHypothesis =>
      obtain ⟨rounds, rfl⟩ : ∃ more, rounds = more + 1 := ⟨rounds - 1, by simp at enough; omega⟩
      rw [atMost_one_cons, same]
      cases member : predicate char with
      | false =>
          rw [List.takeWhile_cons_of_neg (by simp [member]),
            List.dropWhile_cons_of_neg (by simp [member])]
          rfl
      | true =>
          have later := @inductionHypothesis (some char) rounds (by simpa using enough)
          rw [@characterBefore_cons before char] at later
          rw [List.takeWhile_cons_of_pos member, List.dropWhile_cons_of_pos member, if_pos rfl, later]
          cases last : next ⟨(char :: text.takeWhile predicate).getLast?.or before,
              text.dropWhile predicate, groups⟩ with
          | some cursor => rfl
          | none =>
              have stuck : next ⟨before, char :: text, groups⟩ = none := by
                refine Option.eq_none_iff_forall_ne_some.mpr fun cursor succeeds => ?_
                have behind := isSome_next_run keeps (Option.isSome_of_eq_some succeeds)
                rw [List.takeWhile_cons_of_pos member, List.dropWhile_cons_of_pos member,
                  last] at behind
                contradiction
              rw [stuck]
              rfl

/-- A greedy repetition takes all characters of the set, if nothing that follows can begin with one. -/
theorem atMost_one_run {predicate : Char → Bool}
    (same : ∀ char, set.contains char.toNat = predicate char)
    (fails : ∀ before char rest, predicate char = true →
      next ⟨before, char :: rest, groups⟩ = none)
    (text : Text) {rounds : Nat} (enough : text.length ≤ rounds) :
    atMost (follow (.one set)) true rounds next ⟨before, text, groups⟩ =
      next ⟨(text.takeWhile predicate).getLast?.or before, text.dropWhile predicate, groups⟩ := by
  refine atMost_one_longest same ?_ text enough
  intro before after char rest member succeeds
  rw [fails before char rest member] at succeeds
  contradiction

/-- A greedy repetition takes its least number of rounds and then as many as it can. -/
theorem follow_repeated_one (set : CharSet) (least : Nat) :
    follow (.repeated (.one set) ⟨least, none⟩ true) next =
      exactly (follow (.one set)) least fun cursor =>
        atMost (follow (.one set)) true cursor.rest.length next cursor := rfl

/-- A group stores the text between its two places. -/
theorem follow_capture (number : Nat) (body : Regex) (cursor : Cursor) :
    follow (.capture number body) next cursor =
      follow body (fun later =>
        let text := cursor.rest.take (cursor.rest.length - later.rest.length)
        next { later with groups := (number, text) :: later.groups }) cursor := rfl

/-- An expression that captures a name. The name starts with a character of one set and goes on with
characters of another set. -/
def capturedRun (starts parts : CharSet) : Regex :=
  .capture 1 (.sequence (.one starts) (.repeated (.one parts) ⟨0, none⟩ true))

/-- The longest name at the beginning of a text, and the text after it. -/
def splitRun? (isStart isPart : Char → Bool) : Text → Option (Text × Text)
  | [] => none
  | char :: rest =>
      if isStart char then some (char :: rest.takeWhile isPart, rest.dropWhile isPart) else none

/-- A name is captured as far as it reaches, if what follows never prefers a shorter name. -/
theorem follow_capturedRun {starts parts : CharSet} {isStart isPart : Char → Bool}
    (sameStart : ∀ char, starts.contains char.toNat = isStart char)
    (samePart : ∀ char, parts.contains char.toNat = isPart char)
    (keeps : ∀ before after char rest groups others, isPart char = true →
      (next ⟨before, char :: rest, groups⟩).isSome = true →
        (next ⟨after, rest, others⟩).isSome = true)
    (before : Option Char) (text : Text) (groups : List (Nat × Text)) :
    ∃ last, follow (capturedRun starts parts) next ⟨before, text, groups⟩ =
      (splitRun? isStart isPart text).bind fun (name, rest) =>
        next ⟨last, rest, (1, name) :: groups⟩ := by
  cases text with
  | nil => exact ⟨before, rfl⟩
  | cons first rest =>
      rw [capturedRun, follow_capture, follow, splitRun?]
      cases start : isStart first with
      | false =>
          rw [follow_one_eq_none (by simp [sameStart, start])]
          exact ⟨before, rfl⟩
      | true =>
          refine ⟨(rest.takeWhile isPart).getLast?.or (some first), ?_⟩
          rw [follow_one_cons ((sameStart first).trans start), follow_repeated_one, exactly,
            atMost_one_longest samePart _ rest (Nat.le_refl _)]
          · have shape : first :: rest =
                (first :: rest.takeWhile isPart) ++ rest.dropWhile isPart := by
              rw [List.cons_append, List.takeWhile_append_dropWhile]
            have part : (first :: rest).take ((first :: rest).length -
                (rest.dropWhile isPart).length) = first :: rest.takeWhile isPart := by
              rw [shape, List.length_append, Nat.add_sub_cancel, List.take_left]
            rw [part]
            rfl
          · intro before after char rest part succeeds
            exact keeps before after char rest _ _ part succeeds

/-- The search for captures goes on behind a match. -/
theorem captures_of_matchAt? {expr : Regex} {text : Text} {cursor : Cursor}
    (found : expr.matchAt? before text = some cursor) (shorter : cursor.rest.length < text.length)
    (number : Nat) :
    expr.captures number before text =
      (cursor.groups.lookup number).toList ++ expr.captures number cursor.before cursor.rest := by
  conv =>
    lhs
    rw [captures.eq_def, found]
  simp only [shorter, if_true]

/-- An expression after a literal text. -/
def literal (tag : Text) (expr : Regex) : Regex :=
  tag.foldr (fun char expr => .sequence (.one (.single char)) expr) expr

/-- The set of a character has no other one. -/
theorem contains_single (char other : Char) :
    (CharSet.single char).contains other.toNat = true ↔ other = char := by
  simp only [CharSet.single, CharSet.contains, Bool.and_eq_true, decide_eq_true_eq]
  constructor
  · intro between
    exact Char.toNat_inj.mp (by omega)
  · rintro rfl
    exact ⟨Nat.le_refl _, Nat.le_refl _⟩

theorem isPrefixOf?_cons (char : Char) (start text : Text) :
    (char :: start).isPrefixOf? text = ([char].isPrefixOf? text).bind start.isPrefixOf? := by
  cases text with
  | nil => rfl
  | cons first rest => by_cases same : char = first <;> simp [List.isPrefixOf?, same]

/-- A character matches the beginning of the text. -/
theorem follow_single (char : Char) (text : Text) :
    follow (.one (.single char)) next ⟨before, text, groups⟩ =
      (List.isPrefixOf? [char] text).bind fun rest => next ⟨some char, rest, groups⟩ := by
  cases text with
  | nil => rfl
  | cons first rest =>
      by_cases same : first = char
      · subst same
        rw [follow_one_cons ((contains_single first first).mpr rfl)]
        simp [List.isPrefixOf?]
      · have outside : (CharSet.single char).contains first.toNat = false :=
          Bool.eq_false_iff.mpr fun member => same ((contains_single char first).mp member)
        rw [follow_one_eq_none (by simpa using outside)]
        simp [List.isPrefixOf?, Ne.symm same]

/-- A literal text is matched at the beginning of the rest. -/
theorem follow_literal (tag : Text) (expr : Regex) (text : Text) :
    follow (literal tag expr) next ⟨before, text, groups⟩ =
      (List.isPrefixOf? tag text).bind fun rest =>
        follow expr next ⟨tag.getLast?.or before, rest, groups⟩ := by
  induction tag generalizing before text with
  | nil => rfl
  | cons char tag inductionHypothesis =>
      have later := @inductionHypothesis (some char)
      rw [literal, @characterBefore_cons before char tag] at later
      rw [literal, List.foldr_cons, follow, follow_single, isPrefixOf?_cons char tag,
        Option.bind_assoc]
      exact congrArg _ (funext later)

end HouseStyle.Regex
