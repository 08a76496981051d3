/-
This file proves which group the first match of an expression captures, if the expression starts at
the beginning of the text and its greedy repetitions may give characters back.
-/

import HouseStyle.Proofs.Regex.Capture

namespace HouseStyle.Regex

open Unicode

variable {set : CharSet} {next : Continuation} {before : Option Char} {groups : List (Nat × Text)}

/-- The text of a group in the first match. -/
def firstCapture? (expr : Regex) (number : Nat) (text : Text) : Option Text :=
  (expr.captures number none text).head?

/-- An expression that matches at the beginning of the text only. -/
def anchored (expr : Regex) : Regex :=
  .sequence (.check .textStart) expr

/-- What a group holds after a match. -/
def captured (number : Nat) (found : Option Cursor) : Option (Option Text) :=
  found.map fun cursor => cursor.groups.lookup number

@[simp] theorem captured_none (number : Nat) : captured number none = none := rfl

@[simp] theorem captured_orElse (number : Nat) (first second : Option Cursor) :
    captured number (first <|> second) = (captured number first).or (captured number second) := by
  cases first <;> rfl

theorem isSome_captured (number : Nat) (found : Option Cursor) :
    (captured number found).isSome = found.isSome :=
  Option.isSome_map

/-- An anchored expression matches only at the beginning of a text. -/
theorem captures_anchored (expr : Regex) (number : Nat) (char : Char) (text : Text) :
    (anchored expr).captures number (some char) text = [] := by
  have fails : (anchored expr).matchAt? (some char) text = none := rfl
  induction text generalizing char with
  | nil => rw [captures.eq_def, fails]
  | cons first rest inductionHypothesis =>
      rw [captures.eq_def, fails]
      exact inductionHypothesis first rfl

/-- The only match of an anchored expression is the one at the beginning. -/
theorem firstCapture?_anchored {expr : Regex} {number : Nat} {text : Text} {name : Option Text}
    (found : captured number (follow expr some ⟨none, text, []⟩) = name.map some) :
    (anchored expr).firstCapture? number text = name := by
  have same : (anchored expr).matchAt? none text = follow expr some ⟨none, text, []⟩ := rfl
  rw [firstCapture?, captures.eq_def, same]
  cases matched : follow expr some ⟨none, text, []⟩ with
  | none =>
      rw [matched] at found
      obtain rfl : name = none := by simpa [captured] using found.symm
      cases text with
      | nil => rfl
      | cons char rest => simp [captures_anchored]
  | some cursor =>
      rw [matched] at found
      obtain ⟨content, rfl, held⟩ := Option.map_eq_some_iff.mp found.symm
      simp only [← held, Option.toList_some]
      split
      next => rfl
      next => cases text <;> rfl

/-- What is found at the farthest place where something is found. No place behind the first stop is
tried. -/
def farthest? {α : Type} (stop : Char) (here : Text → Option α) : Text → Option α
  | [] => here []
  | char :: rest => (if char = stop then none else farthest? stop here rest).or (here (char :: rest))

section Farthest

variable {α : Type} {stop : Char} {here : Text → Option α}

/-- The search succeeds if it does at some place with no stop in front of it. -/
theorem isSome_farthest?_iff {text : Text} :
    (farthest? stop here text).isSome = true ↔
      ∃ front rest, text = front ++ rest ∧ stop ∉ front ∧ (here rest).isSome = true := by
  induction text with
  | nil =>
      constructor
      · exact fun found => ⟨[], [], rfl, List.not_mem_nil, found⟩
      · rintro ⟨front, rest, shape, -, found⟩
        obtain ⟨rfl, rfl⟩ := List.append_eq_nil_iff.mp shape.symm
        exact found
  | cons char text inductionHypothesis =>
      rw [farthest?, Option.isSome_or, Bool.or_eq_true]
      constructor
      · rintro (later | found)
        · split at later
          next => contradiction
          next goesOn =>
            obtain ⟨front, rest, rfl, noStop, found⟩ := inductionHypothesis.mp later
            exact ⟨char :: front, rest, rfl, by simp [noStop, Ne.symm goesOn], found⟩
        · exact ⟨[], char :: text, rfl, List.not_mem_nil, found⟩
      · rintro ⟨front, rest, shape, noStop, found⟩
        cases front with
        | nil =>
            rw [shape]
            exact Or.inr found
        | cons first front =>
            obtain ⟨rfl, rfl⟩ := List.cons.inj shape
            simp only [List.mem_cons, not_or] at noStop
            rw [if_neg (Ne.symm noStop.1)]
            exact Or.inl (inductionHypothesis.mpr ⟨front, rest, rfl, noStop.2, found⟩)

/-- Nothing is found behind the place of the result. -/
theorem exists_of_farthest? {text : Text} {value : α} (found : farthest? stop here text = some value) :
    ∃ front rest, text = front ++ rest ∧ stop ∉ front ∧ here rest = some value ∧
      ∀ other after, text = other ++ after → stop ∉ other → (here after).isSome = true →
        other.length ≤ front.length := by
  induction text with
  | nil =>
      refine ⟨[], [], rfl, List.not_mem_nil, found, fun other after shape _ _ => ?_⟩
      exact Nat.le_of_eq (congrArg _ (List.append_eq_nil_iff.mp shape.symm).1)
  | cons char text inductionHypothesis =>
      rw [farthest?] at found
      cases later : if char = stop then none else farthest? stop here text with
      | some other =>
          rw [later] at found
          obtain rfl := Option.some.inj found
          obtain ⟨goesOn, later⟩ := Option.ite_none_left_eq_some.mp later
          obtain ⟨front, rest, rfl, noStop, held, last⟩ := inductionHypothesis later
          refine ⟨char :: front, rest, rfl, by simp [noStop, Ne.symm goesOn], held, ?_⟩
          intro other after shape noStop succeeds
          cases other with
          | nil => exact Nat.zero_le _
          | cons first other =>
              obtain ⟨rfl, sameRest⟩ := List.cons.inj shape
              exact Nat.succ_le_succ
                (last other after sameRest (fun member => noStop (List.mem_cons_of_mem _ member)) succeeds)
      | none =>
          rw [later, Option.none_or] at found
          refine ⟨[], char :: text, rfl, List.not_mem_nil, found, ?_⟩
          intro other after shape noStop succeeds
          cases other with
          | nil => exact Nat.le_refl _
          | cons first other =>
              obtain ⟨rfl, sameRest⟩ := List.cons.inj shape
              simp only [List.mem_cons, not_or] at noStop
              rw [if_neg (Ne.symm noStop.1)] at later
              have missed := isSome_farthest?_iff.mpr ⟨other, after, sameRest, noStop.2, succeeds⟩
              rw [later] at missed
              contradiction

/-- A change of what is found can wait until after the search. -/
theorem farthest?_map {β : Type} (f : α → β) (text : Text) :
    farthest? stop (fun rest => (here rest).map f) text = (farthest? stop here text).map f := by
  induction text with
  | nil => rfl
  | cons char text inductionHypothesis =>
      rw [farthest?, farthest?, inductionHypothesis, Option.map_or]
      split <;> rfl

/-- A greedy repetition of all characters but one finds what can be found at the farthest place. -/
theorem captured_atMost {number : Nat} {here : Text → Option (Option Text)}
    (same : ∀ char : Char, set.contains char.toNat = decide (char ≠ stop))
    (finds : ∀ before text, captured number (next ⟨before, text, groups⟩) = here text)
    (text : Text) {rounds : Nat} (enough : text.length ≤ rounds) :
    captured number (atMost (follow (.one set)) true rounds next ⟨before, text, groups⟩) =
      farthest? stop here text := by
  induction text generalizing before rounds with
  | nil => rw [atMost_one_stop (by simp), finds, farthest?]
  | cons char text inductionHypothesis =>
      obtain ⟨rounds, rfl⟩ : ∃ more, rounds = more + 1 := ⟨rounds - 1, by simp at enough; omega⟩
      rw [atMost_one_cons, same, captured_orElse, finds, farthest?]
      by_cases stops : char = stop
      · simp [stops]
      · rw [if_pos (by simp [stops]), if_neg stops,
          @inductionHypothesis (some char) rounds (by simpa using enough)]

end Farthest

end HouseStyle.Regex
