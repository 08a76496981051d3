/-
This file proves that a quoted text is read as the literal text.
-/

import HouseStyle.Proofs.Regex.Capture
import HouseStyle.Regex.Reader

namespace HouseStyle.Regex

open Unicode

variable {machine : Machine}

/-- The part of a sequence that matches one character. -/
def Item.ofChar (char : Char) : Item :=
  .part (.leaf (.one (.single char)))

/-- This function adds the characters of a text to the current sequence. -/
def Machine.pushText (machine : Machine) (text : Text) : Machine :=
  { machine with items := (text.map Item.ofChar).reverse ++ machine.items }

theorem Machine.pushText_cons (machine : Machine) (char : Char) (text : Text) :
    machine.pushText (char :: text) = (machine.pushSet (.single char)).pushText text := by
  simp [pushText, pushSet, push, Item.ofChar]

theorem quote_cons (char : Char) (text : Text) :
    quote (char :: text) = (if isMeta char then ['\\', char] else [char]) ++ quote text := rfl

/-- A character without a meaning of its own stands for itself. -/
theorem readToken_of_not_isMeta {char : Char} (plain : isMeta char = false)
    (unset : machine.flags = {}) (rest : Text) :
    readToken machine char rest = .ok (machine.pushSet (.single char), rest) := by
  rw [readToken]
  · rw [unset]
    rfl
  -- The characters that start other tokens have a meaning of their own.
  all_goals
    rintro rfl
    exact absurd plain (by decide)

/-- A backslash gives up the meaning of the next character. -/
theorem readToken_of_isMeta {char : Char} (special : isMeta char = true)
    (unset : machine.flags = {}) (rest : Text) :
    readToken machine '\\' (char :: rest) = .ok (machine.pushSet (.single char), rest) := by
  rw [readToken, unset]
  simp only [readEscape, special, if_true]
  rfl

/-- A token that is read takes one step, and the rest follows. -/
theorem readTokens_cons {char : Char} {rest after : Text} {next : Machine} (fuel : Nat)
    (unset : machine.flags = {}) (read : readToken machine char rest = .ok (next, after)) :
    readTokens machine (fuel + 1) (char :: rest) = readTokens next fuel after := by
  rw [readTokens, unset]
  simp only [Flags.skip, Bool.false_eq_true, if_false, read]

theorem readTokens_nil (machine : Machine) (fuel : Nat) : readTokens machine fuel [] = .ok machine := by
  cases fuel with
  | zero => rfl
  | succ fuel =>
      have nothing : machine.flags.skip [] = [] := by
        cases verbose : machine.flags.verbose <;> simp [Flags.skip, verbose, skipSpace]
      rw [readTokens, nothing]

/-- Each character of a quoted text is read in one step, and what follows is read after them. -/
theorem readTokens_quote (text rest : Text) (fuel : Nat) (unset : machine.flags = {}) :
    readTokens machine (fuel + text.length) (quote text ++ rest) =
      readTokens (machine.pushText text) fuel rest := by
  induction text generalizing machine with
  | nil => rfl
  | cons char text inductionHypothesis =>
      have step : readTokens machine (fuel + text.length + 1) (quote (char :: text) ++ rest) =
          readTokens (machine.pushSet (.single char)) (fuel + text.length) (quote text ++ rest) := by
        cases special : isMeta char with
        | true =>
            rw [quote_cons, special]
            exact readTokens_cons _ unset (readToken_of_isMeta special unset _)
        | false =>
            rw [quote_cons, special]
            exact readTokens_cons _ unset (readToken_of_not_isMeta special unset _)
      rw [List.length_cons, ← Nat.add_assoc, step, Machine.pushText_cons]
      exact inductionHypothesis unset

/-- A quoted text is at least as long as the text. -/
theorem length_le_length_quote (text : Text) : text.length ≤ (quote text).length := by
  induction text with
  | nil => exact Nat.le_refl 0
  | cons char text inductionHypothesis =>
      have one : 1 ≤ (if isMeta char then ['\\', char] else [char]).length := by
        split <;> simp
      rw [quote_cons, List.length_append, List.length_cons]
      omega

/-- The characters of a text in front of other parts are a literal text. -/
theorem concat_append (text : Text) {items : List Regex} (nonempty : items ≠ []) :
    concat ((text.map fun char => .one (.single char)) ++ items) = literal text (concat items) := by
  induction text with
  | nil => rfl
  | cons char text inductionHypothesis =>
      rw [literal, List.foldr_cons, ← literal, ← inductionHypothesis, List.map_cons, List.cons_append,
        concat]
      intro empty
      exact nonempty (List.append_eq_nil_iff.mp empty).2

/-- Characters add no levels to a sequence. -/
theorem levelAbove_append (text : Text) (nodes : List Node) :
    levelAbove ((text.map fun char => .leaf (.one (.single char))) ++ nodes) = levelAbove nodes := by
  induction text with
  | nil => rfl
  | cons char text inductionHypothesis =>
      rw [← inductionHypothesis, levelAbove, List.map_cons, List.cons_append, List.map_cons,
        List.foldr_cons, Node.leaf, Nat.zero_max, levelAbove]

/-- Two nodes or more make a sequence with a level of its own. -/
theorem Node.sequence_of_two_le {nodes : List Node} (several : 2 ≤ nodes.length) :
    sequence nodes = ⟨concat (nodes.map (·.expr)), levelAbove nodes⟩ := by
  match nodes with
  | [] | [_] => simp at several
  | first :: second :: nodes => rfl

/-- The sequence of a text and at least two other parts. -/
theorem sequenceNode_pushText (text : Text) (first second : Node) (nodes : List Node) :
    sequenceNode (((first :: second :: nodes).map Item.part).reverse ++
        (text.map Item.ofChar).reverse) =
      ⟨literal text (concat ((first :: second :: nodes).map (·.expr))),
        levelAbove (first :: second :: nodes)⟩ := by
  have nodesEq : (((first :: second :: nodes).map Item.part).reverse ++
      (text.map Item.ofChar).reverse).reverse.map Item.toNode =
        (text.map fun char => .leaf (.one (.single char))) ++ first :: second :: nodes := by
    simp [Item.ofChar, Item.toNode, Function.comp_def]
  rw [sequenceNode, nodesEq, Node.sequence_of_two_le (by simp; omega), levelAbove_append,
    ← concat_append text (by simp)]
  simp [Function.comp_def, Node.leaf]

end HouseStyle.Regex
