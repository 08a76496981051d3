/-
This file proves how deep the expression of a glob pattern is nested. Only the end of a choice adds
levels, so the closing braces of a pattern bound its depth.
-/

import HouseStyle.Glob.Basic
import HouseStyle.Regex.Reader

namespace HouseStyle

namespace Regex

variable {nodes : List Node} {bound : Nat}

/-- A new level stands above nodes within the bound. -/
theorem levelAbove_le (within : ∀ node ∈ nodes, node.depth ≤ bound) :
    levelAbove nodes ≤ bound + 1 := by
  have deepest : (nodes.map (·.depth)).foldr max 0 ≤ bound := by
    induction nodes with
    | nil => exact Nat.zero_le bound
    | cons node others inductionHypothesis =>
        obtain ⟨first, rest⟩ := List.forall_mem_cons.mp within
        exact Nat.max_le.mpr ⟨first, inductionHypothesis rest⟩
  rw [levelAbove]
  omega

/-- A sequence is at most one level deeper than its parts. -/
theorem Node.depth_sequence_le (within : ∀ node ∈ nodes, node.depth ≤ bound) :
    (sequence nodes).depth ≤ bound + 1 := by
  match nodes with
  | [] => exact Nat.zero_le _
  | [node] => exact Nat.le_succ_of_le (within node (List.mem_singleton_self node))
  | _ :: _ :: _ => exact levelAbove_le within

/-- A choice is at most one level deeper than its alternatives. -/
theorem Node.depth_choice_le (within : ∀ node ∈ nodes, node.depth ≤ bound) :
    (choice nodes).depth ≤ bound + 1 := by
  match nodes with
  | [] => exact Nat.zero_le _
  | [node] => exact Nat.le_succ_of_le (within node (List.mem_singleton_self node))
  | _ :: _ :: _ => exact levelAbove_le within

end Regex

namespace Glob

open Regex

variable {bound larger : Nat} {options : Options} {state next last : State}

/-- No part of the expression for a token is deeper than the bound. -/
def Token.Within (bound : Nat) (token : Token) : Prop :=
  ∀ node ∈ token.nodes, node.depth ≤ bound

/-- No token of an open choice is deeper than the bound. -/
structure Level.Within (bound : Nat) (level : Level) : Prop where
  finished : ∀ branch ∈ level.finished, ∀ token ∈ branch, token.Within bound
  outer : ∀ token ∈ level.outer, token.Within bound

/-- No token that was read is deeper than the bound. -/
structure State.Within (bound : Nat) (state : State) : Prop where
  current : ∀ token ∈ state.current, token.Within bound
  levels : ∀ level ∈ state.levels, level.Within bound

theorem Token.Within.mono {token : Token} (within : token.Within bound) (less : bound ≤ larger) :
    token.Within larger :=
  fun node member => Nat.le_trans (within node member) less

theorem Level.Within.mono {level : Level} (within : level.Within bound) (less : bound ≤ larger) :
    level.Within larger where
  finished branch isBranch token member := (within.finished branch isBranch token member).mono less
  outer token member := (within.outer token member).mono less

theorem State.Within.mono (within : state.Within bound) (less : bound ≤ larger) :
    state.Within larger where
  current token member := (within.current token member).mono less
  levels level member := (within.levels level member).mono less

namespace Token

theorem within_plain_singleton {node : Node} (depth : node.depth ≤ bound) :
    (plain [node]).Within bound :=
  List.forall_mem_singleton.mpr depth

/-- The bytes of a character have no parts. -/
theorem within_literal (char : Char) : (literal char).Within bound := by
  intro node member
  obtain ⟨byte, -, rfl⟩ := List.mem_map.mp member
  exact Nat.zero_le bound

theorem within_anyStart (base : 4 ≤ bound) : anyStart.Within bound :=
  List.forall_mem_singleton.mpr base

theorem within_anyMiddle (base : 4 ≤ bound) : anyMiddle.Within bound :=
  List.forall_mem_singleton.mpr base

theorem within_anyEnd (base : 4 ≤ bound) : anyEnd.Within bound :=
  List.forall_mem_cons.mpr ⟨Nat.zero_le bound,
    List.forall_mem_singleton.mpr (Nat.le_trans (by decide) base)⟩

/-- A choice has a level for the sequences of its branches, one for the choice, and one for its
parentheses. -/
theorem within_choiceOf {branches : List (List Token)}
    (within : ∀ branch ∈ branches, ∀ token ∈ branch, token.Within bound) :
    (choiceOf branches).Within (bound + 3) := by
  have sequences : ∀ node ∈ (branches.reverse.filter fun branch => !isEmptyBranch branch).map
      sequenceOf, node.depth ≤ bound + 1 := by
    intro node member
    obtain ⟨branch, isBranch, rfl⟩ := List.mem_map.mp member
    have inBranches := List.mem_reverse.mp (List.mem_filter.mp isBranch).1
    apply Node.depth_sequence_le
    intro part isPart
    obtain ⟨token, inBranch, inToken⟩ := List.mem_flatMap.mp isPart
    exact within branch inBranches token (List.mem_reverse.mp inBranch) part inToken
  rw [choiceOf]
  split
  next => exact List.forall_mem_nil _
  next => exact within_plain_singleton (Nat.succ_le_succ (Node.depth_choice_le sequences))

end Token

/-- A class has at most two levels. -/
theorem depth_classNode_le (negated : Bool) (items : List Unicode.CharSet) :
    (classNode negated items).depth ≤ 2 := by
  rw [classNode]
  split
  · exact Nat.le_succ 1
  · exact Nat.le_refl 2

theorem Options.depth_wildByte_le (options : Options) : options.wildByte.depth ≤ 1 := by
  rw [wildByte]
  split
  · exact Nat.le_refl 1
  · exact Nat.zero_le 1

namespace State.Within

theorem push (within : state.Within bound) {token : Token} (added : token.Within bound) :
    (state.push token).Within bound where
  current := List.forall_mem_cons.mpr ⟨added, within.current⟩
  levels := within.levels

/-- The current branch may be replaced. -/
theorem withCurrent (within : state.Within bound) {tokens : List Token}
    (others : ∀ token ∈ tokens, token.Within bound) :
    { state with current := tokens }.Within bound where
  current := others
  levels := within.levels

/-- A class adds a token with at most two levels. -/
theorem stepClass (within : state.Within bound) (base : 4 ≤ bound) {rest : Text} {taken : Nat}
    (stepped : Glob.stepClass options state rest = .ok (next, taken)) : next.Within bound := by
  unfold Glob.stepClass at stepped
  dsimp only at stepped
  split at stepped
  next =>
    obtain ⟨rfl, -⟩ := Prod.mk.inj (Except.ok.inj stepped)
    exact within.push (Token.within_plain_singleton
      (Nat.le_trans (depth_classNode_le _ _) (Nat.le_trans (by decide) base)))
  next => contradiction
  next =>
    split at stepped
    next =>
      obtain ⟨rfl, -⟩ := Prod.mk.inj (Except.ok.inj stepped)
      exact ⟨(within.push (Token.within_literal '[')).current, within.levels⟩
    next => contradiction

/-- The last token may be replaced by one within the bound. -/
theorem replaceLast (within : state.Within bound) {token : Token} (added : token.Within bound) :
    (state.replaceLast token).Within bound := by
  unfold State.replaceLast
  split
  next => exact within
  next => exact within
  next => exact within
  next shape =>
    have others := within.current
    rw [shape] at others
    exact within.withCurrent (List.forall_mem_cons.mpr ⟨added, (List.forall_mem_cons.mp others).2⟩)

/-- A star adds a token, or it replaces the last one. -/
theorem stepStar (within : state.Within bound) (base : 4 ≤ bound) (options : Options)
    (previous : Option Char) (rest : Text) :
    (Glob.stepStar options state previous rest).1.Within bound := by
  have depth : (repeatAny options.wildByte).depth ≤ 2 := Nat.succ_le_succ options.depth_wildByte_le
  have star : (Token.plain [repeatAny options.wildByte]).Within bound :=
    Token.within_plain_singleton (Nat.le_trans depth (Nat.le_trans (by decide) base))
  have twoStars := (within.push star).push star
  have start := within.push (Token.within_anyStart base)
  have middle := within.replaceLast (Token.within_anyMiddle base)
  have stop := within.replaceLast (Token.within_anyEnd base)
  unfold Glob.stepStar
  dsimp only
  split
  next after =>
    split
    next =>
      split
      next => exact start
      next => exact start
      next => exact twoStars
    next =>
      split
      next => exact twoStars
      next =>
        split
        next => exact stop
        next => exact middle
        next =>
          split
          next => exact stop
          next => exact twoStars
  next => exact within.push star

/-- The tokens in front of a choice wait until it is closed. -/
theorem openChoice (within : state.Within bound) :
    { state with current := [], levels := ⟨[], state.current⟩ :: state.levels }.Within bound where
  current := List.forall_mem_nil _
  levels := List.forall_mem_cons.mpr ⟨⟨List.forall_mem_nil _, within.current⟩, within.levels⟩

/-- A finished branch waits until its choice is closed. -/
theorem nextBranch (within : state.Within bound) {level : Level} {levels : List Level}
    (shape : state.levels = level :: levels) :
    { state with
      current := []
      levels := { level with finished := state.current :: level.finished } :: levels }.Within
        bound := by
  obtain ⟨unfinished, others⟩ := List.forall_mem_cons.mp (shape ▸ within.levels)
  have branches := List.forall_mem_cons.mpr ⟨within.current, unfinished.finished⟩
  exact ⟨List.forall_mem_nil _, List.forall_mem_cons.mpr ⟨⟨branches, unfinished.outer⟩, others⟩⟩

/-- The end of a choice is the only move that adds levels. -/
theorem closeChoice (within : state.Within bound) {level : Level} {levels : List Level}
    (shape : state.levels = level :: levels) :
    { state with
      current := choiceOf (state.current :: level.finished) :: level.outer
      levels }.Within (bound + 3) := by
  obtain ⟨closed, others⟩ := List.forall_mem_cons.mp (shape ▸ within.levels)
  have branches := List.forall_mem_cons.mpr ⟨within.current, closed.finished⟩
  have less : bound ≤ bound + 3 := Nat.le_add_right bound 3
  exact ⟨List.forall_mem_cons.mpr
      ⟨Token.within_choiceOf branches, fun token member => (closed.outer token member).mono less⟩,
    fun level member => (others level member).mono less⟩

/-- A step that takes a closing brace adds three levels at most, and no other step adds any. -/
theorem step (within : state.Within bound) (base : 4 ≤ bound) {previous : Option Char} {char : Char}
    {rest : Text} {taken : Nat}
    (stepped : Glob.step options state previous char rest = .ok (next, taken)) :
    next.Within (bound + 3 * ((char :: rest).take taken).count '\x7d') := by
  have more : bound ≤ bound + 3 * ((char :: rest).take taken).count '\x7d' := Nat.le_add_right _ _
  unfold Glob.step at stepped
  -- The cases are the characters with a meaning, in the order of the step, and then all others.
  split at stepped
  next =>
    cases stepped
    have wild := options.depth_wildByte_le
    have added := Token.within_plain_singleton (Nat.le_trans wild (Nat.le_trans (by decide) base))
    exact (within.push added).mono more
  next =>
    have result : (Glob.stepStar options state previous rest).1 = next :=
      congrArg Prod.fst (Except.ok.inj stepped)
    exact result ▸ (within.stepStar base options previous rest).mono more
  next =>
    split at stepped
    next =>
      cases stepped
      exact (within.push (Token.within_literal '[')).mono more
    next => exact (within.stepClass base stepped).mono more
  next =>
    cases stepped
    exact within.openChoice.mono more
  next =>
    cases shape : state.levels with
    | nil =>
        rw [shape] at stepped
        contradiction
    | cons level levels =>
        rw [shape] at stepped
        cases stepped
        exact within.closeChoice shape
  next =>
    cases shape : state.levels with
    | nil =>
        rw [shape] at stepped
        cases stepped
        exact (within.push (Token.within_literal ',')).mono more
    | cons level levels =>
        rw [shape] at stepped
        cases stepped
        exact (within.nextBranch shape).mono more
  next =>
    split at stepped
    next => contradiction
    next =>
      cases stepped
      exact (within.push (Token.within_literal _)).mono more
  next =>
    cases stepped
    exact (within.push (Token.within_literal char)).mono more

/-- Only the closing braces of the characters that are read add levels. -/
theorem readParts {fuel : Nat} {previous : Option Char} {input : Text} (within : state.Within bound)
    (base : 4 ≤ bound) (done : Glob.readParts options state previous fuel input = .ok last) :
    last.Within (bound + 3 * input.count '\x7d') := by
  induction fuel generalizing state previous input bound with
  | zero =>
      obtain rfl := Except.ok.inj done
      exact within.mono (Nat.le_add_right _ _)
  | succ fuel inductionHypothesis =>
      cases input with
      | nil =>
          obtain rfl := Except.ok.inj done
          exact within
      | cons char rest =>
          rw [Glob.readParts] at done
          split at done
          next => contradiction
          next stepped =>
            have levels := inductionHypothesis (within.step base stepped)
              (Nat.le_trans base (Nat.le_add_right _ _)) done
            rw [Nat.add_assoc, ← Nat.mul_add, ← List.count_append, List.take_append_drop] at levels
            exact levels

end State.Within

/-- The depth of a glob is bounded by the closing braces of its pattern. -/
theorem depth_le_of_ofText? {pattern : Text} {glob : Glob}
    (read : ofText? options pattern = .ok glob) :
    glob.node.depth ≤ 5 + 3 * pattern.count '\x7d' := by
  rw [ofText?] at read
  split at read
  next => contradiction
  next state done =>
    have start : State.Within 4 {} := ⟨List.forall_mem_nil _, List.forall_mem_nil _⟩
    have within := start.readParts (Nat.le_refl 4) done
    split at read
    next => contradiction
    next =>
      split at read
      next =>
        obtain rfl := Except.ok.inj read
        exact Nat.le_trans (by decide) (Nat.le_add_right 5 _)
      next =>
        obtain rfl := Except.ok.inj read
        rw [ofNodes, Nat.add_right_comm 4 1]
        apply Node.depth_sequence_le
        intro node member
        obtain rfl | ⟨token, inBranch, inToken⟩ | rfl := by
          simpa [or_assoc] using member
        · exact Nat.zero_le _
        · exact within.current token inBranch node inToken
        · exact Nat.zero_le _

/-- The expression of a glob is as deep as the reader finds it in its written form. -/
example :
    (ofText? {} "a\x7bb,\x7bc,d*\x7d\x7d/**/[x-z!]".toList).toOption.map (·.node.depth) = some 7 ∧
      (readTokens {} 40 "(?s)^a(?:b|(?:c|d.*))(?:/|/.*/)[x-z!]$".toList).toOption.map
        (·.body.depth) = some 7 := by
  decide +kernel

/-- A pattern with 81 closing braces or fewer always compiles. -/
theorem compiles_of_count_le {pattern : Text} {glob : Glob}
    (read : ofText? options pattern = .ok glob) (few : pattern.count '\x7d' ≤ 81) :
    glob.compiles = true := by
  have depth := depth_le_of_ofText? read
  rw [compiles, decide_eq_true_iff, maxDepth]
  omega

/-- A letter in some pairs of braces. -/
def nested : Nat → Text
  | 0 => ['a']
  | count + 1 => '\x7b' :: nested count ++ ['\x7d']

/-- The pairs of braces stand around one letter. -/
theorem length_nested (count : Nat) : (nested count).length = count + 1 + count := by
  induction count with
  | zero => rfl
  | succ count inductionHypothesis =>
      rw [nested, List.length_append, List.length_cons, inductionHypothesis, List.length_singleton]
      omega

/-- Each pair of braces becomes a pair of parentheses. -/
theorem readParts_nested (options : Options) (count fuel : Nat) (rest : Text)
    (levels : List Level) (previous : Option Char) :
    ∃ last node, node.depth = count ∧
      readParts options { levels } previous (count + 1 + count + fuel) (nested count ++ rest) =
        readParts options { current := [.plain [node]], levels } last fuel rest := by
  induction count generalizing fuel rest levels previous with
  | zero => exact ⟨some 'a', _, rfl, by rw [Nat.zero_add, Nat.add_comm 1]; rfl⟩
  | succ count inductionHypothesis =>
      obtain ⟨last, node, depth, inside⟩ := inductionHypothesis (fuel + 1) ('\x7d' :: rest)
        (⟨[], []⟩ :: levels) (some '\x7b')
      have text : nested (count + 1) ++ rest = '\x7b' :: (nested count ++ '\x7d' :: rest) := by
        simp [nested]
      have steps : count + 1 + 1 + (count + 1) + fuel = count + 1 + count + (fuel + 1) + 1 := by
        omega
      rw [text, steps]
      exact ⟨some '\x7d', groupOf [node], congrArg Nat.succ depth, inside⟩

/-- There is no bound on the depth of the patterns that can be read. -/
theorem ofText?_nested (options : Options) (count : Nat) :
    ∃ glob, ofText? options (nested count) = .ok glob ∧ glob.node.depth = count + 1 := by
  obtain ⟨last, node, depth, all⟩ := readParts_nested options count 0 [] [] none
  have done : readParts options {} none (nested count).length (nested count) =
      .ok { current := [.plain [node]] } := by
    rw [length_nested, ← List.append_nil (nested count)]
    exact all
  refine ⟨ofNodes [node], ?_, ?_⟩
  · rw [ofText?, done]
    rfl
  · change 1 + max 0 (max node.depth 0) = count + 1
    omega

/-- A letter in 250 pairs of braces or more can be read, but it does not compile. -/
theorem compiles_nested_iff (options : Options) (count : Nat) :
    ∃ glob, ofText? options (nested count) = .ok glob ∧ (glob.compiles = true ↔ count < 250) := by
  obtain ⟨glob, read, depth⟩ := ofText?_nested options count
  refine ⟨glob, read, ?_⟩
  rw [compiles, decide_eq_true_iff, depth, maxDepth]
  omega

end Glob

end HouseStyle
