/-
This file matches the brackets of a text with a stack and defines what the matched spans leave of
the text.
-/

import Mathlib.Data.List.Induction
import HouseStyle.Text.Basic

namespace HouseStyle.Signature

/-- The brackets of a text, matched with a stack. Positions are counted from 0. -/
structure Matching where
  /-- The positions of the opening brackets that are not closed, the most recent one first. -/
  unmatched : List Nat := []
  /-- The matched spans, each with the positions of its opening and its closing bracket. -/
  spans : List (Nat × Nat) := []

namespace Matching

/-- An opening bracket waits for the bracket that closes it. -/
def push (matching : Matching) (position : Nat) : Matching :=
  { matching with unmatched := position :: matching.unmatched }

/-- A closing bracket closes the most recent unmatched opening bracket. It is stray if there is
none. -/
def close (matching : Matching) (position : Nat) : Matching :=
  match matching.unmatched with
  | [] => matching
  | opening :: earlier =>
      { unmatched := earlier, spans := (opening, position) :: matching.spans }

def step (first last : Char) (matching : Matching) : Char × Nat → Matching
  | (char, position) =>
      if char = first then matching.push position
      else if char = last then matching.close position
      else matching

def ofText (first last : Char) (text : Text) : Matching :=
  text.zipIdx.foldl (step first last) {}

/-- The position is within a matched span. The brackets of a span are within it. -/
def covers (matching : Matching) (position : Nat) : Bool :=
  matching.spans.any fun (opening, closing) => opening ≤ position && position ≤ closing

/-- The characters of a text that are within no matched span. -/
def outside (matching : Matching) (text : Text) : Text :=
  (text.zipIdx.filter fun (_, position) => !matching.covers position).map Prod.fst

/-- The position of the first opening bracket that stays unmatched, or the length of the text. -/
def firstUnmatched (matching : Matching) (length : Nat) : Nat :=
  matching.unmatched.min?.getD length

/-- The characters in front of the first unmatched bracket that are within no matched span, and the
text from this bracket on. -/
def kept (matching : Matching) (text : Text) : Text :=
  matching.outside (text.take (matching.firstUnmatched text.length)) ++
    text.drop (matching.firstUnmatched text.length)

theorem zipIdx_append_singleton (text : Text) (char : Char) :
    (text ++ [char]).zipIdx = text.zipIdx ++ [(char, text.length)] := by
  simp [List.zipIdx_append]

/-- One more character is one more step. -/
theorem ofText_append_singleton (first last : Char) (text : Text) (char : Char) :
    ofText first last (text ++ [char]) =
      (ofText first last text).step first last (char, text.length) := by
  rw [ofText, zipIdx_append_singleton, List.foldl_append]
  rfl

variable {first last : Char} {matching : Matching}

theorem close_of_nil (closed : matching.unmatched = []) (position : Nat) :
    matching.close position = matching := by
  rw [close, closed]

/-- The last open character is closed first. -/
theorem close_of_cons {opening : Nat} {earlier : List Nat}
    (isOpen : matching.unmatched = opening :: earlier) (position : Nat) :
    matching.close position =
      { unmatched := earlier, spans := (opening, position) :: matching.spans } := by
  rw [close, isOpen]

/-- The stack leads from the last open bracket to the first one, and all brackets stand in front of
the given position. -/
structure IsWithin (matching : Matching) (length : Nat) : Prop where
  decreasing : matching.unmatched.Pairwise (· > ·)
  unmatched_lt : ∀ position ∈ matching.unmatched, position < length
  ordered : ∀ span ∈ matching.spans, span.1 < span.2
  closing_lt : ∀ span ∈ matching.spans, span.2 < length

namespace IsWithin

variable {length : Nat}

theorem empty (length : Nat) : IsWithin {} length where
  decreasing := .nil
  unmatched_lt := by simp
  ordered := by simp
  closing_lt := by simp

theorem succ (within : matching.IsWithin length) : matching.IsWithin (length + 1) where
  decreasing := within.decreasing
  unmatched_lt position member := Nat.lt_succ_of_lt (within.unmatched_lt position member)
  ordered := within.ordered
  closing_lt span member := Nat.lt_succ_of_lt (within.closing_lt span member)

theorem push (within : matching.IsWithin length) :
    (matching.push length).IsWithin (length + 1) where
  decreasing := List.pairwise_cons.mpr ⟨within.unmatched_lt, within.decreasing⟩
  unmatched_lt := List.forall_mem_cons.mpr ⟨Nat.lt_succ_self length, within.succ.unmatched_lt⟩
  ordered := within.ordered
  closing_lt := within.succ.closing_lt

/-- The end of a span keeps the positions within the text. -/
theorem close (within : matching.IsWithin length) :
    (matching.close length).IsWithin (length + 1) := by
  cases isOpen : matching.unmatched with
  | nil =>
      rw [close_of_nil isOpen]
      exact within.succ
  | cons opening earlier =>
      have before := within.unmatched_lt opening (isOpen ▸ List.mem_cons_self)
      have later := within.succ
      rw [close_of_cons isOpen]
      refine ⟨?_, ?_, ?_, ?_⟩
      · exact (List.pairwise_cons.mp (isOpen ▸ later.decreasing)).2
      · exact fun position member =>
          later.unmatched_lt position (isOpen ▸ List.mem_cons_of_mem _ member)
      · exact List.forall_mem_cons.mpr ⟨before, later.ordered⟩
      · exact List.forall_mem_cons.mpr ⟨Nat.lt_succ_self length, later.closing_lt⟩

/-- Each character keeps the positions within the text. -/
theorem step (within : matching.IsWithin length) (char : Char) :
    (matching.step first last (char, length)).IsWithin (length + 1) := by
  simp only [Matching.step]
  split
  next => exact within.push
  next =>
    split
    next => exact within.close
    next => exact within.succ

end IsWithin

/-- All positions of a matching are within its text. The induction is from the end of the text. -/
theorem isWithin_ofText (first last : Char) (text : Text) :
    (ofText first last text).IsWithin text.length := by
  induction text using List.reverseRecOn with
  | nil => exact .empty 0
  | append_singleton text char inductionHypothesis =>
      rw [ofText_append_singleton, List.length_append]
      exact inductionHypothesis.step char

/-- An opening bracket was found at the position. -/
def OpensAt (matching : Matching) (position : Nat) : Prop :=
  position ∈ matching.unmatched ∨ ∃ closing, (position, closing) ∈ matching.spans

namespace OpensAt

variable {position : Nat}

/-- A bracket that is closed begins the new span. -/
theorem close (opensAt : matching.OpensAt position) (place : Nat) :
    (matching.close place).OpensAt position := by
  cases isOpen : matching.unmatched with
  | nil => rwa [close_of_nil isOpen]
  | cons opening earlier =>
      rw [close_of_cons isOpen]
      rcases opensAt with stacked | ⟨closing, span⟩
      · rw [isOpen] at stacked
        rcases List.mem_cons.mp stacked with rfl | later
        · exact .inr ⟨place, List.mem_cons_self⟩
        · exact .inl later
      · exact .inr ⟨closing, List.mem_cons_of_mem _ span⟩

theorem step (opensAt : matching.OpensAt position) (next : Char × Nat) :
    (matching.step first last next).OpensAt position := by
  obtain ⟨char, place⟩ := next
  simp only [Matching.step]
  split
  next => exact opensAt.imp_left (List.mem_cons_of_mem place)
  next =>
    split
    next => exact opensAt.close place
    next => exact opensAt

end OpensAt

/-- Every opening bracket is open or begins a span. -/
theorem opensAt_of_mem_zipIdx {text : Text} {position : Nat}
    (isOpening : (first, position) ∈ text.zipIdx) (last : Char) :
    (ofText first last text).OpensAt position := by
  induction text using List.reverseRecOn with
  | nil => simp at isOpening
  | append_singleton text char inductionHypothesis =>
      rw [ofText_append_singleton]
      rw [zipIdx_append_singleton, List.mem_append, List.mem_singleton] at isOpening
      rcases isOpening with earlier | here
      · exact (inductionHypothesis earlier).step _
      · rw [← here, step, if_pos rfl]
        exact .inl List.mem_cons_self

/-- If both brackets are one character, it opens spans and never closes one. -/
theorem spans_ofText_self (char : Char) (text : Text) : (ofText char char text).spans = [] := by
  induction text using List.reverseRecOn with
  | nil => rfl
  | append_singleton text next inductionHypothesis =>
      rw [ofText_append_singleton, step]
      split
      next => exact inductionHypothesis
      next => exact inductionHypothesis

section FirstUnmatched

/-- The first open position is the least one. -/
theorem firstUnmatched_le {position : Nat} (member : position ∈ matching.unmatched)
    (length : Nat) : matching.firstUnmatched length ≤ position := by
  obtain ⟨least, isLeast⟩ := Option.isSome_iff_exists.mp (List.isSome_min?_of_mem member)
  rw [firstUnmatched, isLeast]
  exact (List.min?_eq_some_iff.mp isLeast).2 position member

theorem IsWithin.firstUnmatched_le {length : Nat} (within : matching.IsWithin length) :
    matching.firstUnmatched length ≤ length := by
  rw [firstUnmatched]
  cases isLeast : matching.unmatched.min? with
  | none => exact Nat.le_refl _
  | some least =>
      exact Nat.le_of_lt (within.unmatched_lt least (List.min?_eq_some_iff.mp isLeast).1)

theorem firstUnmatched_of_nil (closed : matching.unmatched = []) (length : Nat) :
    matching.firstUnmatched length = length := by
  rw [firstUnmatched, closed]
  rfl

/-- The length does not matter while a bracket is open. -/
theorem firstUnmatched_of_ne_nil (isOpen : matching.unmatched ≠ []) (length other : Nat) :
    matching.firstUnmatched length = matching.firstUnmatched other := by
  obtain ⟨least, isLeast⟩ := Option.isSome_iff_exists.mp (List.isSome_min?_iff.mpr isOpen)
  rw [firstUnmatched, firstUnmatched, isLeast, Option.getD_some, Option.getD_some]

/-- A bracket that opens behind all others is the first open one only if there is no other. -/
theorem firstUnmatched_push {position : Nat}
    (behind : ∀ earlier ∈ matching.unmatched, earlier < position) (length : Nat) :
    (matching.push position).firstUnmatched length = matching.firstUnmatched position := by
  rw [firstUnmatched, push, List.min?_cons, Option.getD_some, firstUnmatched]
  cases isLeast : matching.unmatched.min? with
  | none => rfl
  | some least =>
      have before := behind least (List.min?_eq_some_iff.mp isLeast).1
      exact Nat.min_eq_right (Nat.le_of_lt before)

/-- The bracket that is closed is not the first open one if another one is open. -/
theorem firstUnmatched_close {opening outer : Nat} {earlier : List Nat}
    (decreasing : matching.unmatched.Pairwise (· > ·))
    (isOpen : matching.unmatched = opening :: outer :: earlier) (position length other : Nat) :
    (matching.close position).firstUnmatched length = matching.firstUnmatched other := by
  have behind := (List.pairwise_cons.mp (isOpen ▸ decreasing)).1
  have unmatched : (matching.close position).unmatched = outer :: earlier := by
    rw [close_of_cons isOpen]
  have reopened : ((matching.close position).push opening).unmatched = matching.unmatched := by
    rw [push, unmatched, isOpen]
  calc
    (matching.close position).firstUnmatched length =
        (matching.close position).firstUnmatched opening :=
      firstUnmatched_of_ne_nil (by simp [unmatched]) length opening
    _ = ((matching.close position).push opening).firstUnmatched other :=
      (firstUnmatched_push (by rwa [unmatched]) other).symm
    _ = matching.firstUnmatched other := by rw [firstUnmatched, reopened, firstUnmatched]

end FirstUnmatched

section Outside

variable {other : Matching} {text : Text}

/-- The end of the text is not covered. -/
theorem IsWithin.covers_eq_false {length : Nat} (within : matching.IsWithin length) :
    matching.covers length = false := by
  refine List.any_eq_false.mpr fun span member => ?_
  have before := within.closing_lt span member
  simp only [Bool.and_eq_true, decide_eq_true_eq]
  omega

/-- The new span begins at the bracket that is closed. -/
theorem covers_close_of_lt {opening position : Nat} {earlier : List Nat}
    (isOpen : matching.unmatched = opening :: earlier) (before : position < opening)
    (closing : Nat) : (matching.close closing).covers position = matching.covers position := by
  rw [close_of_cons isOpen]
  simp [covers, Nat.not_le.mpr before]

/-- A closed span covers all positions between its ends. -/
theorem covers_close_of_mem {opening position closing : Nat} {earlier : List Nat}
    (isOpen : matching.unmatched = opening :: earlier) (behind : opening ≤ position)
    (before : position ≤ closing) : (matching.close closing).covers position = true := by
  rw [close_of_cons isOpen]
  simp [covers, behind, before]

/-- The text outside of spans grows at its end. -/
theorem outside_append (matching : Matching) (text more : Text) :
    matching.outside (text ++ more) = matching.outside text ++
      ((more.zipIdx text.length).filter fun (_, position) => !matching.covers position).map
        Prod.fst := by
  simp [outside, List.zipIdx_append]

/-- The text outside depends on which positions are covered. -/
theorem outside_congr
    (same : ∀ position < text.length, matching.covers position = other.covers position) :
    matching.outside text = other.outside text := by
  rw [outside, outside]
  congr 1
  refine List.filter_congr fun (char, position) member => ?_
  have inside : position < text.length := by simpa using List.snd_lt_of_mem_zipIdx member
  simp only [same position inside]

/-- A text that is covered adds nothing. -/
theorem outside_append_covered {more : Text}
    (all : ∀ position, text.length ≤ position → position < text.length + more.length →
      matching.covers position = true) :
    matching.outside (text ++ more) = matching.outside text := by
  have none : (more.zipIdx text.length).filter (fun (_, position) => !matching.covers position) =
      [] := by
    refine List.filter_eq_nil_iff.mpr fun (char, position) member => ?_
    have covered := all position (List.le_snd_of_mem_zipIdx member)
      (List.snd_lt_add_of_mem_zipIdx member)
    simp [covered]
  rw [outside_append, none, List.map_nil, List.append_nil]

/-- A character that is not covered stays outside. -/
theorem outside_append_singleton (free : matching.covers text.length = false) (char : Char) :
    matching.outside (text ++ [char]) = matching.outside text ++ [char] := by
  simp [outside_append, free]

theorem outside_sublist (matching : Matching) (text : Text) :
    (matching.outside text).Sublist text := by
  have part := (List.filter_sublist (p := fun (_, position) => !matching.covers position)
    (l := text.zipIdx)).map Prod.fst
  rwa [List.zipIdx_map_fst] at part

theorem kept_sublist (matching : Matching) (text : Text) : (matching.kept text).Sublist text := by
  have parts := (matching.outside_sublist (text.take (matching.firstUnmatched text.length))).append
    (List.Sublist.refl (text.drop (matching.firstUnmatched text.length)))
  rwa [List.take_append_drop] at parts

/-- Without spans the whole text is kept. -/
theorem kept_of_no_span (noSpan : matching.spans = []) (text : Text) :
    matching.kept text = text := by
  have all (part : Text) : matching.outside part = part := by
    rw [outside, List.filter_eq_self.mpr (by simp [covers, noSpan]), List.zipIdx_map_fst]
  rw [kept, all, List.take_append_drop]

/-- In front of the first open bracket, every opening bracket is within a span. -/
theorem first_notMem_outside (first last : Char) (text : Text) :
    first ∉ (ofText first last text).outside
      (text.take ((ofText first last text).firstUnmatched text.length)) := by
  intro member
  obtain ⟨⟨char, position⟩, isOutside, rfl⟩ := List.mem_map.mp member
  obtain ⟨here, free⟩ := List.mem_filter.mp isOutside
  rw [List.mk_mem_zipIdx_iff_getElem?, List.getElem?_take, Option.ite_none_right_eq_some] at here
  obtain ⟨before, isOpening⟩ := here
  rcases opensAt_of_mem_zipIdx (List.mk_mem_zipIdx_iff_getElem?.mpr isOpening) last with
    isOpen | ⟨closing, span⟩
  · exact absurd before (Nat.not_lt.mpr (firstUnmatched_le isOpen text.length))
  · have ordered := (isWithin_ofText char last text).ordered _ span
    have covered : (ofText char last text).covers position = true :=
      List.any_eq_true.mpr ⟨_, span, by simpa using Nat.le_of_lt ordered⟩
    simp [covered] at free

end Outside

end Matching

end HouseStyle.Signature
