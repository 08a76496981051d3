/-
This file defines properly nested texts and proves that the removal of bracketed spans, one kind of
brackets after the other, leaves what stands outside all brackets.
-/

import HouseStyle.Proofs.Source.Signature

namespace HouseStyle.Signature

/-- The character opens or closes a span of one of the kinds. -/
def isBracket (kinds : List (Char × Char)) (char : Char) : Bool :=
  kinds.any fun (first, last) => char == first || char == last

/-- The first text is properly nested in brackets of the given kinds, and the second text is what
stands outside all its brackets. -/
inductive Nested (kinds : List (Char × Char)) : Text → Text → Prop
  | nil : Nested kinds [] []
  | plain {char : Char} (noBracket : isBracket kinds char = false) : Nested kinds [char] [char]
  | span {first last : Char} {inner within : Text} (isKind : (first, last) ∈ kinds)
      (inside : Nested kinds inner within) : Nested kinds (first :: (inner ++ [last])) []
  | append {text outer more moreOuter : Text} (here : Nested kinds text outer)
      (later : Nested kinds more moreOuter) : Nested kinds (text ++ more) (outer ++ moreOuter)

theorem isBracket_eq_false_iff {kinds : List (Char × Char)} {char : Char} :
    isBracket kinds char = false ↔ ∀ kind ∈ kinds, char ≠ kind.1 ∧ char ≠ kind.2 := by
  simp [isBracket]

namespace Nested

variable {kinds : List (Char × Char)} {text outer : Text}

/-- Text without brackets is nested, and all of it is outside. -/
theorem ofPlain (noBracket : ∀ char ∈ text, isBracket kinds char = false) :
    Nested kinds text text := by
  induction text with
  | nil => exact .nil
  | cons char text inductionHypothesis =>
      obtain ⟨here, later⟩ := List.forall_mem_cons.mp noBracket
      exact .append (.plain here) (inductionHypothesis later)

/-- The text outside of brackets is part of the text. -/
theorem mem_of_mem_outer (nested : Nested kinds text outer) {char : Char} (member : char ∈ outer) :
    char ∈ text := by
  induction nested with
  | nil => exact member
  | plain => exact member
  | span => exact absurd member List.not_mem_nil
  | append _ _ inHere inLater =>
      rcases List.mem_append.mp member with here | later
      · exact List.mem_append_left _ (inHere here)
      · exact List.mem_append_right _ (inLater later)

/-- Without brackets nothing is left out. -/
theorem eq_outer (nested : Nested [] text outer) : text = outer := by
  induction nested with
  | nil => rfl
  | plain => rfl
  | span isKind => exact absurd isKind List.not_mem_nil
  | append _ _ here later => rw [here, later]

section Scan

variable {first last : Char}

/-- Inside an open span, a nested text is collected as it is. -/
theorem foldl_step_open (different : first ≠ last)
    (alone : isBracket kinds first = false ∧ isBracket kinds last = false)
    (nested : Nested ((first, last) :: kinds) text outer) (kept : Text) (depth : Nat)
    (span : Text) :
    text.foldl (Scan.step first last) ⟨kept, depth + 1, span⟩ =
      ⟨kept, depth + 1, text.reverse ++ span⟩ := by
  have other {char : Char} (notFirst : char ≠ first) (notLast : char ≠ last) (depth : Nat)
      (span : Text) : Scan.step first last ⟨kept, depth + 1, span⟩ char =
        ⟨kept, depth + 1, char :: span⟩ := by
    simp [Scan.step, notFirst, notLast]
  induction nested generalizing depth span with
  | nil => rfl
  | plain noBracket =>
      have apart := (isBracket_eq_false_iff.mp noBracket) _ List.mem_cons_self
      rw [List.foldl_cons, other apart.1 apart.2]
      rfl
  | @span opening closing inner within isKind _ inside =>
      rw [List.foldl_cons, List.foldl_append]
      -- A span of the same kind goes one level deeper, the brackets of others are collected.
      rcases List.mem_cons.mp isKind with same | isOther
      · obtain ⟨rfl, rfl⟩ := Prod.mk.inj same
        have opens : Scan.step opening closing ⟨kept, depth + 1, span⟩ opening =
            ⟨kept, depth + 1 + 1, opening :: span⟩ := by simp [Scan.step]
        rw [opens, inside]
        simp [Scan.step, Ne.symm different]
      · have apart := (isBracket_eq_false_iff.mp alone.1) _ isOther
        have alsoApart := (isBracket_eq_false_iff.mp alone.2) _ isOther
        rw [other (Ne.symm apart.1) (Ne.symm alsoApart.1), inside, List.foldl_cons,
          other (Ne.symm apart.2) (Ne.symm alsoApart.2)]
        simp
  | append _ _ here later =>
      rw [List.foldl_append, here, later]
      simp

/-- Outside the spans of a kind, what remains of a nested text is kept. It is nested in the brackets
of the other kinds. -/
theorem exists_foldl_step (different : first ≠ last)
    (alone : isBracket kinds first = false ∧ isBracket kinds last = false)
    (nested : Nested ((first, last) :: kinds) text outer) :
    ∃ stripped, Nested kinds stripped outer ∧ ∀ kept,
      text.foldl (Scan.step first last) { kept } = { kept := stripped.reverse ++ kept } := by
  have keeps {char : Char} (notFirst : char ≠ first) (kept : Text) :
      Scan.step first last { kept } char = { kept := char :: kept } := by
    simp [Scan.step, notFirst]
  induction nested with
  | nil => exact ⟨[], .nil, fun _ => rfl⟩
  | @plain char noBracket =>
      obtain ⟨apart, others⟩ := List.forall_mem_cons.mp (isBracket_eq_false_iff.mp noBracket)
      exact ⟨[char], .plain (isBracket_eq_false_iff.mpr others), fun kept => keeps apart.1 kept⟩
  | @span opening closing inner within isKind nestedInner inside =>
      -- A span of the same kind is dropped as a whole, a span of others loses the spans inside it.
      rcases List.mem_cons.mp isKind with same | isOther
      · obtain ⟨rfl, rfl⟩ := Prod.mk.inj same
        refine ⟨[], .nil, fun kept => ?_⟩
        have opens : Scan.step opening closing { kept } opening = ⟨kept, 0 + 1, [opening]⟩ := by
          simp [Scan.step]
        rw [List.foldl_cons, List.foldl_append, opens,
          foldl_step_open different alone nestedInner]
        simp [Scan.step, Ne.symm different]
      · obtain ⟨stripped, nestedStripped, scan⟩ := inside
        have apart := (isBracket_eq_false_iff.mp alone.1) _ isOther
        refine ⟨opening :: (stripped ++ [closing]), .span isOther nestedStripped, fun kept => ?_⟩
        rw [List.foldl_cons, List.foldl_append, keeps (Ne.symm apart.1), scan, List.foldl_cons,
          keeps (Ne.symm apart.2)]
        simp
  | append _ _ here later =>
      obtain ⟨stripped, nestedStripped, scan⟩ := here
      obtain ⟨alsoStripped, alsoNested, alsoScan⟩ := later
      refine ⟨stripped ++ alsoStripped, .append nestedStripped alsoNested, fun kept => ?_⟩
      rw [List.foldl_append, scan, alsoScan]
      simp

/-- Without the spans of one kind, the text is nested in the brackets of the other kinds. -/
theorem stripSpans (different : first ≠ last)
    (alone : isBracket kinds first = false ∧ isBracket kinds last = false)
    (nested : Nested ((first, last) :: kinds) text outer) :
    Nested kinds (Signature.stripSpans first last text) outer := by
  obtain ⟨stripped, nestedStripped, scan⟩ := exists_foldl_step different alone nested
  rw [Signature.stripSpans, show ({} : Scan) = { kept := [] } from rfl, scan]
  simpa [Scan.result] using nestedStripped

end Scan

end Nested

/-- What stands outside the brackets of a text, if each closing bracket belongs to the last bracket
that is open and none is open at the end. `expected` holds the closing brackets of the open ones. -/
def outsideFrom? (kinds : List (Char × Char)) (expected : List Char) : Text → Option Text
  | [] => if expected.isEmpty then some [] else none
  | char :: rest =>
      match kinds.lookup char, expected with
      | some last, _ => outsideFrom? kinds (last :: expected) rest
      | none, [] =>
          if isBracket kinds char then none
          else (outsideFrom? kinds [] rest).map (char :: ·)
      | none, last :: others =>
          if char = last then outsideFrom? kinds others rest
          else if isBracket kinds char then none
          else outsideFrom? kinds expected rest

def outside? (kinds : List (Char × Char)) (text : Text) : Option Text :=
  outsideFrom? kinds [] text

/-- The text closes the brackets that are open, and nested texts stand in front of the closing
brackets and behind the last one. -/
def Closes (kinds : List (Char × Char)) : List Char → Text → Text → Prop
  | [], text, outer => Nested kinds text outer
  | last :: expected, text, outer => ∃ inner within rest,
      text = inner ++ last :: rest ∧ Nested kinds inner within ∧ Closes kinds expected rest outer

namespace Closes

variable {kinds : List (Char × Char)} {expected : List Char} {text outer : Text}

/-- A span in front of a text changes nothing. -/
theorem span {first last : Char} (isKind : (first, last) ∈ kinds)
    (closes : Closes kinds (last :: expected) text outer) :
    Closes kinds expected (first :: text) outer := by
  obtain ⟨inner, within, rest, rfl, nested, later⟩ := closes
  have front : Nested kinds (first :: (inner ++ [last])) [] := .span isKind nested
  cases expected with
  | nil =>
      have whole := front.append (show Nested kinds rest outer from later)
      simpa [Closes] using whole
  | cons next expected =>
      obtain ⟨alsoInner, alsoWithin, alsoRest, rfl, alsoNested, behind⟩ := later
      exact ⟨first :: (inner ++ [last]) ++ alsoInner, _, alsoRest, by simp, front.append alsoNested,
        behind⟩

/-- A character that is no bracket stays inside the open ones. -/
theorem plain {char : Char} (noBracket : isBracket kinds char = false) {last : Char}
    (closes : Closes kinds (last :: expected) text outer) :
    Closes kinds (last :: expected) (char :: text) outer := by
  obtain ⟨inner, within, rest, rfl, nested, later⟩ := closes
  exact ⟨char :: inner, _, rest, rfl, (Nested.plain noBracket).append nested, later⟩

end Closes

/-- The text outside is found only if the brackets are nested. The induction is on the text, for
every list of expected brackets. -/
theorem closes_of_outsideFrom? {kinds : List (Char × Char)} {expected : List Char}
    {text outer : Text} (found : outsideFrom? kinds expected text = some outer) :
    Closes kinds expected text outer := by
  induction text generalizing expected outer with
  | nil =>
      rw [outsideFrom?] at found
      cases expected with
      | nil =>
          obtain rfl := Option.some.inj found
          exact Nested.nil
      | cons last expected => contradiction
  | cons char rest inductionHypothesis =>
      unfold outsideFrom? at found
      split at found
      next last isKind =>
        obtain ⟨before, after, shape, -⟩ := List.lookup_eq_some_iff.mp isKind
        exact (inductionHypothesis found).span (by simp [shape])
      next =>
        split at found
        next => contradiction
        next noBracket =>
          obtain ⟨later, isOuter, rfl⟩ := Option.map_eq_some_iff.mp found
          have front : Nested kinds [char] [char] := .plain (Bool.eq_false_iff.mpr noBracket)
          exact front.append (inductionHypothesis isOuter)
      next last others _ =>
        split at found
        next same => exact ⟨[], [], rest, by rw [same]; rfl, .nil, inductionHypothesis found⟩
        next =>
          split at found
          next => contradiction
          next noBracket =>
            exact (inductionHypothesis found).plain (Bool.eq_false_iff.mpr noBracket)

/-- A text whose brackets belong together is nested. -/
theorem nested_of_outside? {kinds : List (Char × Char)} {text outer : Text}
    (found : outside? kinds text = some outer) : Nested kinds text outer :=
  closes_of_outsideFrom? found

/-- This function removes the spans of all kinds of brackets. -/
def stripAll (text : Text) : Text :=
  brackets.foldl (fun text (first, last) => stripSpans first last text) text

/-- What is left of a nested text is what stands outside its brackets. -/
theorem stripAll_of_nested {text outer : Text} (nested : Nested brackets text outer) :
    stripAll text = outer :=
  (((nested.stripSpans (by decide) (by decide)).stripSpans (by decide) (by decide)).stripSpans
    (by decide) (by decide)).eq_outer

section Around

variable {first last : Char} {text : Text}

/-- Text without opening brackets is kept. -/
theorem foldl_step_plain (absent : first ∉ text) (kept : Text) :
    text.foldl (Scan.step first last) { kept } = { kept := text.reverse ++ kept } := by
  induction text generalizing kept with
  | nil => rfl
  | cons char text inductionHypothesis =>
      simp only [List.mem_cons, not_or] at absent
      have step : Scan.step first last { kept } char = { kept := char :: kept } := by
        simp [Scan.step, Ne.symm absent.1]
      rw [List.foldl_cons, step, inductionHypothesis absent.2]
      simp

/-- Nothing is removed without an opening character. -/
theorem stripSpans_eq_self (absent : first ∉ text) : stripSpans first last text = text := by
  rw [stripSpans, foldl_step_plain absent []]
  simp [Scan.result]

/-- What is kept does not influence a scan. -/
theorem foldl_step_kept (first last : Char) (text : Text) (scan : Scan) (earlier : Text) :
    text.foldl (Scan.step first last) { scan with kept := scan.kept ++ earlier } =
      { text.foldl (Scan.step first last) scan with
        kept := (text.foldl (Scan.step first last) scan).kept ++ earlier } := by
  induction text generalizing scan with
  | nil => rfl
  | cons char text inductionHypothesis =>
      have step : Scan.step first last { scan with kept := scan.kept ++ earlier } char =
          { Scan.step first last scan char with
            kept := (Scan.step first last scan char).kept ++ earlier } := by
        simp only [Scan.step]
        split
        next => rfl
        next =>
          split
          next => rfl
          next =>
            split
            next => split <;> rfl
            next => rfl
      rw [List.foldl_cons, List.foldl_cons, step]
      exact inductionHypothesis _

/-- Text without opening brackets in front of a text stays in front of what is left of it. -/
theorem stripSpans_plain_append {before : Text} (absent : first ∉ before) (text : Text) :
    stripSpans first last (before ++ text) = before ++ stripSpans first last text := by
  have scan := foldl_step_kept first last text {} before.reverse
  rw [List.nil_append] at scan
  rw [stripSpans, List.foldl_append, show ({} : Scan) = { kept := [] } from rfl,
    foldl_step_plain absent [], List.append_nil, scan]
  simp [stripSpans, Scan.result]

/-- A scan that is outside all spans has collected no span. -/
theorem span_foldl_step {scan : Scan} (closed : scan.depth = 0 → scan.span = []) (text : Text) :
    (text.foldl (Scan.step first last) scan).depth = 0 →
      (text.foldl (Scan.step first last) scan).span = [] := by
  induction text generalizing scan with
  | nil => exact closed
  | cons char text inductionHypothesis =>
      refine inductionHypothesis ?_
      simp only [Scan.step]
      split
      next => simp
      next =>
        split
        next outside => exact fun _ => closed outside
        next inside =>
          split
          next =>
            split
            next => exact fun _ => rfl
            next several => exact fun none => absurd none (by simp only; omega)
          next => exact fun none => absurd none inside

/-- Text without brackets is added to a scan as it is. -/
theorem result_foldl_step_plain {after : Text} (noOpen : first ∉ after) (noClose : last ∉ after)
    {scan : Scan} (closed : scan.depth = 0 → scan.span = []) :
    (after.foldl (Scan.step first last) scan).result = scan.result ++ after := by
  induction after generalizing scan with
  | nil => exact (List.append_nil _).symm
  | cons char after inductionHypothesis =>
      simp only [List.mem_cons, not_or] at noOpen noClose
      have later := @inductionHypothesis noOpen.2 noClose.2 (Scan.step first last scan char)
      by_cases outside : scan.depth = 0
      · have step : Scan.step first last scan char = { scan with kept := char :: scan.kept } := by
          simp [Scan.step, Ne.symm noOpen.1, outside]
        rw [step] at later
        rw [List.foldl_cons, step, later closed]
        simp [Scan.result, closed outside]
      · have step : Scan.step first last scan char = { scan with span := char :: scan.span } := by
          simp [Scan.step, Ne.symm noOpen.1, Ne.symm noClose.1, outside]
        rw [step] at later
        rw [List.foldl_cons, step, later fun none => absurd none outside]
        simp [Scan.result]

/-- Text without brackets behind a text stays behind what is left of it. -/
theorem stripSpans_append_plain {after : Text} (noOpen : first ∉ after) (noClose : last ∉ after)
    (text : Text) :
    stripSpans first last (text ++ after) = stripSpans first last text ++ after := by
  rw [stripSpans, List.foldl_append,
    result_foldl_step_plain noOpen noClose (span_foldl_step (fun _ => rfl) text)]
  rfl

/-- White space around a text stays around what is left of it. -/
theorem stripAll_between {before after : Text}
    (blankBefore : ∀ char ∈ before, Text.isBlankChar char = true)
    (blankAfter : ∀ char ∈ after, Text.isBlankChar char = true) (text : Text) :
    stripAll (before ++ text ++ after) = before ++ stripAll text ++ after := by
  have absent {char : Char} (solid : Text.isBlankChar char = false) {blank : Text}
      (all : ∀ char ∈ blank, Text.isBlankChar char = true) : char ∉ blank :=
    Text.not_mem_of_isBlank (List.all_eq_true.mpr all) solid
  have one {first last : Char} (solidFirst : Text.isBlankChar first = false)
      (solidLast : Text.isBlankChar last = false) (text : Text) :
      stripSpans first last (before ++ text ++ after) =
        before ++ stripSpans first last text ++ after := by
    rw [stripSpans_append_plain (absent solidFirst blankAfter) (absent solidLast blankAfter),
      stripSpans_plain_append (absent solidFirst blankBefore)]
  simp only [stripAll, brackets, List.foldl_cons, List.foldl_nil]
  rw [one (by decide) (by decide), one (by decide) (by decide), one (by decide) (by decide)]

end Around

/-- The parenthesis that closes an open one is not within a nested text. -/
theorem untilClosed_nested_append {inner outer : Text} (nested : Nested brackets inner outer)
    (depth : Nat) (rest : Text) :
    untilClosed (depth + 1) (inner ++ rest) = (untilClosed (depth + 1) rest).map (inner ++ ·) := by
  induction nested generalizing depth rest with
  | nil => simp
  | plain noBracket =>
      have apart := isBracket_eq_false_iff.mp noBracket ('(', ')') (by decide)
      exact untilClosed_cons apart.1 apart.2 _ _
  | @span first last inner within isKind _ inside =>
      rw [List.cons_append, List.append_assoc, List.singleton_append]
      by_cases parenthesis : first = '('
      · have partner : last = ')' := by
          subst parenthesis
          simpa [brackets] using isKind
        rw [parenthesis, partner, untilClosed, inside, untilClosed, if_neg (by omega)]
        simp [Function.comp_def]
      · have apart : first ≠ ')' ∧ last ≠ '(' ∧ last ≠ ')' := by
          simp only [brackets, List.mem_cons, Prod.mk.injEq, List.not_mem_nil, or_false] at isKind
          rcases isKind with ⟨rfl, rfl⟩ | ⟨rfl, rfl⟩ | ⟨rfl, rfl⟩
          · decide
          · decide
          · exact absurd rfl parenthesis
        rw [untilClosed_cons parenthesis apart.1, inside, untilClosed_cons apart.2.1 apart.2.2]
        simp [Function.comp_def]
  | append _ _ here later =>
      rw [List.append_assoc, here, later, Option.map_map]
      simp [Function.comp_def]

/-- The text between the first parenthesis and the one that closes it may be nested. -/
theorem parenthesized?_nested {head inner outer : Text} (plain : '(' ∉ head)
    (nested : Nested brackets inner outer) (tail : Text) :
    parenthesized? (head ++ '(' :: (inner ++ ')' :: tail)) = some inner := by
  have closing := untilClosed_nested_append nested 0 (')' :: tail)
  rw [parenthesized?_cut plain]
  simpa [untilClosed] using closing

end HouseStyle.Signature
