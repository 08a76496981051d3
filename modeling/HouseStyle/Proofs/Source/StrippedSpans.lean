/-
This file proves that the removal of spans leaves what is outside the matched spans up to the first
bracket that stays open, and the text from this bracket on.
-/

import HouseStyle.Proofs.Source.Brackets
import HouseStyle.Proofs.Source.SpanMatching

namespace HouseStyle.Signature

/-- The scan has kept the text outside the matched spans up to the first open bracket, and it holds
the text from this bracket on. -/
structure Scan.Follows (scan : Scan) (matching : Matching) (text : Text) : Prop where
  depth : scan.depth = matching.unmatched.length
  kept : scan.kept.reverse =
    matching.outside (text.take (matching.firstUnmatched text.length))
  span : scan.span.reverse = text.drop (matching.firstUnmatched text.length)

namespace Scan.Follows

open Matching

variable {first last char : Char} {scan : Scan} {matching other : Matching} {text : Text}

/-- Within an open span that goes on, the character is added to the span. -/
theorem inside (follows : scan.Follows matching text)
    (within : matching.IsWithin text.length)
    (same : other.firstUnmatched (text.length + 1) = matching.firstUnmatched text.length)
    (covers : ∀ position < matching.firstUnmatched text.length,
      other.covers position = matching.covers position) :
    Scan.Follows { scan with depth := other.unmatched.length, span := char :: scan.span } other
      (text ++ [char]) := by
  have inText := within.firstUnmatched_le
  refine ⟨rfl, ?_, ?_⟩
  · rw [List.length_append, List.length_singleton, same, List.take_append_of_le_length inText,
      follows.kept]
    refine (outside_congr fun position before => covers position ?_).symm
    rwa [List.length_take_of_le inText] at before
  · rw [List.length_append, List.length_singleton, same, List.drop_append_of_le_length inText,
      List.reverse_cons, follows.span]

/-- Outside all spans, a character that opens none is kept. -/
theorem outside (follows : scan.Follows matching text)
    (within : matching.IsWithin text.length) (closed : matching.unmatched = []) :
    Scan.Follows { scan with kept := char :: scan.kept } matching (text ++ [char]) := by
  have atEnd := firstUnmatched_of_nil closed
  obtain ⟨depth, kept, span⟩ := follows
  rw [atEnd, List.take_length] at kept
  rw [atEnd, List.drop_length] at span
  refine ⟨depth, ?_, ?_⟩
  · rw [atEnd, List.take_length, outside_append_singleton within.covers_eq_false,
      List.reverse_cons, kept]
  · rw [atEnd, List.drop_length, span]

/-- The bracket that closes the outermost span drops this span. -/
theorem closesOutermost (follows : scan.Follows matching text)
    (within : matching.IsWithin text.length) {opening : Nat}
    (isOpen : matching.unmatched = [opening]) :
    Scan.Follows { scan with depth := 0, span := [] } (matching.close text.length)
      (text ++ [char]) := by
  have closed : (matching.close text.length).unmatched = [] := by rw [close_of_cons isOpen]
  have atEnd := firstUnmatched_of_nil closed
  have bottom : matching.firstUnmatched text.length = opening := by
    rw [firstUnmatched, isOpen]
    rfl
  have inText := within.firstUnmatched_le
  have kept := follows.kept
  rw [bottom] at inText kept
  refine ⟨by rw [closed]; rfl, ?_, ?_⟩
  · rw [atEnd, List.take_length, kept]
    calc
      matching.outside (text.take opening) =
          (matching.close text.length).outside (text.take opening) := by
        refine outside_congr fun position before => ?_
        rw [List.length_take_of_le inText] at before
        exact (covers_close_of_lt isOpen before _).symm
      _ = (matching.close text.length).outside
            (text.take opening ++ (text.drop opening ++ [char])) := by
        refine (outside_append_covered fun position behind before => ?_).symm
        rw [List.length_take_of_le inText] at behind before
        rw [List.length_append, List.length_drop, List.length_singleton] at before
        exact covers_close_of_mem isOpen behind (by omega)
      _ = (matching.close text.length).outside (text ++ [char]) := by
        rw [← List.append_assoc, List.take_append_drop]
  · rw [atEnd, List.drop_length]
    rfl

/-- The bracket that closes a span within another one is added to the outer span. -/
theorem closesInner (follows : scan.Follows matching text)
    (within : matching.IsWithin text.length) {opening outer : Nat} {earlier : List Nat}
    (isOpen : matching.unmatched = opening :: outer :: earlier) :
    Scan.Follows { scan with depth := scan.depth - 1, span := char :: scan.span }
      (matching.close text.length) (text ++ [char]) := by
  have depth : scan.depth - 1 = (matching.close text.length).unmatched.length := by
    rw [close_of_cons isOpen, follows.depth, isOpen]
    rfl
  have opensLater : opening > outer :=
    (List.pairwise_cons.mp (isOpen ▸ within.decreasing)).1 outer List.mem_cons_self
  have bottom : matching.firstUnmatched text.length ≤ outer :=
    firstUnmatched_le (by simp [isOpen]) _
  rw [depth]
  exact follows.inside within (firstUnmatched_close within.decreasing isOpen _ _ _)
    fun position before => covers_close_of_lt isOpen (by omega) _

/-- Each character keeps the scan and the matched brackets together. -/
theorem step (follows : scan.Follows matching text) (within : matching.IsWithin text.length)
    (char : Char) :
    (scan.step first last char).Follows (matching.step first last (char, text.length))
      (text ++ [char]) := by
  simp only [Scan.step, Matching.step]
  split
  next opens =>
    rw [follows.depth]
    exact follows.inside within (firstUnmatched_push within.unmatched_lt _) fun _ _ => rfl
  next =>
    -- The number of open brackets decides what the scan does with a character.
    cases isOpen : matching.unmatched with
    | nil =>
        have depth : scan.depth = 0 := by rw [follows.depth, isOpen]; rfl
        rw [if_pos depth, close_of_nil isOpen, ite_self]
        exact follows.outside within isOpen
    | cons opening earlier =>
        have depth : scan.depth = earlier.length + 1 := by rw [follows.depth, isOpen]; rfl
        rw [if_neg (by omega)]
        split
        next =>
          cases earlier with
          | nil =>
              rw [if_pos (show scan.depth = 1 from depth)]
              exact follows.closesOutermost within isOpen
          | cons outer earlier =>
              rw [if_neg (by simp [depth])]
              exact follows.closesInner within isOpen
        next =>
          have filled : matching.unmatched ≠ [] := by simp [isOpen]
          rw [follows.depth]
          exact follows.inside within (firstUnmatched_of_ne_nil filled _ _) fun _ _ => rfl

end Scan.Follows

/-- The scan follows the matching along the whole text. -/
theorem follows_foldl_step (first last : Char) (text : Text) :
    (text.foldl (Scan.step first last) {}).Follows (Matching.ofText first last text) text := by
  induction text using List.reverseRecOn with
  | nil => exact ⟨rfl, rfl, rfl⟩
  | append_singleton text char inductionHypothesis =>
      rw [Matching.ofText_append_singleton, List.foldl_append]
      exact inductionHypothesis.step (Matching.isWithin_ofText first last text) char

/-- The removal of spans keeps what is outside the matched spans up to the first open bracket. -/
theorem stripSpans_eq_kept (first last : Char) (text : Text) :
    stripSpans first last text = (Matching.ofText first last text).kept text := by
  have follows := follows_foldl_step first last text
  rw [stripSpans, Scan.result, follows.kept, follows.span, Matching.kept]

/-- The open span of the scan is collected again if it is scanned alone. -/
def Scan.Repeats (first last : Char) (scan : Scan) : Prop :=
  scan.span.reverse.foldl (Scan.step first last) {} = { scan with kept := [] }

namespace Scan.Repeats

variable {first last : Char} {scan : Scan}

/-- Each character keeps the scan repeatable. -/
theorem step (repeats : scan.Repeats first last) (char : Char) :
    (scan.step first last char).Repeats first last := by
  have collects {depth : Nat}
      (goesOn : Scan.step first last { scan with kept := [] } char =
        { kept := [], depth, span := char :: scan.span }) :
      (char :: scan.span).reverse.foldl (Scan.step first last) {} =
        { kept := [], depth, span := char :: scan.span } := by
    rw [List.reverse_cons, List.foldl_append, repeats]
    exact goesOn
  simp only [Repeats, Scan.step] at collects ⊢
  split
  next opens => exact collects (by rw [if_pos opens])
  next other =>
    split
    next => exact repeats
    next inside =>
      split
      next closes =>
        split
        next => rfl
        next several =>
          exact collects (by rw [if_neg other, if_neg inside, if_pos closes, if_neg several])
      next noBracket => exact collects (by rw [if_neg other, if_neg inside, if_neg noBracket])

/-- The result of a scan has no more spans. -/
theorem stripSpans_result (repeats : scan.Repeats first last) (absent : first ∉ scan.kept) :
    stripSpans first last scan.result = scan.result := by
  have again : stripSpans first last scan.span.reverse = scan.span.reverse := by
    rw [stripSpans, repeats]
    rfl
  rw [Scan.result, stripSpans_plain_append (by simpa using absent), again]

end Scan.Repeats

/-- The scan is repeatable along the whole text. -/
theorem repeats_foldl_step (first last : Char) (text : Text) :
    (text.foldl (Scan.step first last) {}).Repeats first last := by
  induction text using List.reverseRecOn with
  | nil => rfl
  | append_singleton text char inductionHypothesis =>
      rw [List.foldl_append]
      exact inductionHypothesis.step char

/-- A second removal finds no span. -/
theorem stripSpans_stripSpans (first last : Char) (text : Text) :
    stripSpans first last (stripSpans first last text) = stripSpans first last text := by
  have absent := Matching.first_notMem_outside first last text
  rw [← (follows_foldl_step first last text).kept, List.mem_reverse] at absent
  exact (repeats_foldl_step first last text).stripSpans_result absent

/-- The removal of spans keeps what is outside the matched spans up to the first open bracket, and
the text from this bracket on. It changes nothing if both brackets are one character, a second
removal changes nothing, and no opening bracket is left if none stays open. -/
theorem stripSpans_keeps_outside (first last : Char) (text : Text) :
    (first = last → stripSpans first last text = text) ∧
    (first ≠ last → stripSpans first last text = (Matching.ofText first last text).kept text) ∧
    stripSpans first last (stripSpans first last text) = stripSpans first last text ∧
    (stripSpans first last text).Sublist text ∧
    ((Matching.ofText first last text).unmatched = [] → first ∉ stripSpans first last text) := by
  have shape := stripSpans_eq_kept first last text
  refine ⟨?_, fun _ => shape, stripSpans_stripSpans first last text, ?_, ?_⟩
  · rintro rfl
    rw [shape]
    exact Matching.kept_of_no_span (Matching.spans_ofText_self first text) text
  · rw [shape]
    exact Matching.kept_sublist _ text
  · intro closed
    have absent := Matching.first_notMem_outside first last text
    rw [Matching.firstUnmatched_of_nil closed] at absent
    rwa [shape, Matching.kept, Matching.firstUnmatched_of_nil closed, List.drop_length,
      List.append_nil]

/-- A stray closing bracket stays, and so does a closed span behind a bracket that stays open. -/
theorem stripSpans_keeps_outside_open_tail :
    let text := "a<b<c>d>e>f<g<h>".toList
    let left := "ae>f<g<h>".toList
    '<' ≠ '>' ∧ (Matching.ofText '<' '>' text).kept text = left ∧
      stripSpans '<' '>' text = left ∧ stripSpans '<' '>' left = left ∧ left.Sublist text ∧
      stripSpans '<' '<' text = text ∧
      (Matching.ofText '[' ']' "x[1[2]] y]".toList).unmatched = [] ∧
      '[' ∉ stripSpans '[' ']' "x[1[2]] y]".toList := by
  intro text left
  obtain ⟨-, outside, again, part, -⟩ := stripSpans_keeps_outside '<' '>' text
  have different : '<' ≠ '>' := by decide
  have kept : (Matching.ofText '<' '>' text).kept text = left := by decide
  have closed : (Matching.ofText '[' ']' "x[1[2]] y]".toList).unmatched = [] := by decide
  rw [outside different, kept] at again part
  exact ⟨different, kept, (outside different).trans kept, again, part,
    (stripSpans_keeps_outside '<' '<' text).1 rfl, closed,
    (stripSpans_keeps_outside '[' ']' _).2.2.2.2 closed⟩

end HouseStyle.Signature
