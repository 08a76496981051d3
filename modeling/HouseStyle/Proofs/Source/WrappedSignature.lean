/-
This file proves that the parameters of a function are those of its whole signature, wherever the
collection of the lines ends.
-/

import HouseStyle.Proofs.Source.Signature

namespace HouseStyle.Signature

section Line

variable {depth : Nat} {text part : Text}

/-- A scan reaches the body of a function if the rest of the line does. -/
theorem LineScan.cons_eq_body_iff {char : Char} {scan : LineScan} :
    scan.cons char = .body part ↔ ∃ rest, scan = .body rest ∧ part = char :: rest := by
  cases scan with
  | body rest => simp [LineScan.cons, eq_comm]
  | «open» depth => simp [LineScan.cons]

/-- A character that is no parenthesis is passed, unless it is the brace of the body. -/
theorem scanLine_cons {char : Char} (noOpen : char ≠ '(') (noClose : char ≠ ')')
    (noBody : 0 < depth ∨ char ≠ '\x7b') (rest : Text) :
    scanLine depth (char :: rest) = (scanLine depth rest).cons char := by
  by_cases brace : char = '\x7b'
  · subst brace
    rw [scanLine, if_neg]
    rcases noBody with positive | different
    · exact Nat.ne_of_gt positive
    · contradiction
  · rw [scanLine]
    · exact brace
    · exact noOpen
    · exact noClose

/-- While a parenthesis is open, the scan of a line counts as the search for the one that closes it
does. -/
theorem scanLine_of_open (positive : 0 < depth) (opened : untilClosed depth text = none) :
    ∃ later, 0 < later ∧ scanLine depth text = .open later ∧
      ∀ more, untilClosed depth (text ++ more) = (untilClosed later more).map (text ++ ·) := by
  fun_induction untilClosed depth text with
  | case1 depth => exact ⟨depth, positive, rfl, fun more => by simp⟩
  | case2 depth text inductionHypothesis =>
      obtain ⟨later, stillOpen, scan, goesOn⟩ :=
        inductionHypothesis (Nat.succ_pos depth) (Option.map_eq_none_iff.mp opened)
      refine ⟨later, stillOpen, by rw [scanLine, scan]; rfl, fun more => ?_⟩
      rw [List.cons_append, untilClosed, goesOn, Option.map_map]
      rfl
  | case3 depth text last => contradiction
  | case4 depth text more inductionHypothesis =>
      obtain ⟨later, stillOpen, scan, goesOn⟩ :=
        inductionHypothesis (by omega) (Option.map_eq_none_iff.mp opened)
      refine ⟨later, stillOpen, by rw [scanLine, scan]; rfl, fun rest => ?_⟩
      rw [List.cons_append, untilClosed, if_neg more, goesOn, Option.map_map]
      rfl
  | case5 depth char text noOpen noClose inductionHypothesis =>
      obtain ⟨later, stillOpen, scan, goesOn⟩ :=
        inductionHypothesis positive (Option.map_eq_none_iff.mp opened)
      refine ⟨later, stillOpen, ?_, fun rest => ?_⟩
      · rw [scanLine_cons noOpen noClose (Or.inl positive), scan]
        rfl
      · rw [List.cons_append, untilClosed_cons noOpen noClose, goesOn, Option.map_map]
        rfl

/-- The part in front of a body is the beginning of its line. -/
theorem prefix_of_body (scan : scanLine depth text = .body part) : part <+: text := by
  fun_induction scanLine depth text generalizing part with
  | case1 depth => contradiction
  | case2 rest =>
      obtain rfl := LineScan.body.inj scan
      exact List.nil_prefix
  | case3 depth rest _ inductionHypothesis =>
      obtain ⟨later, found, rfl⟩ := LineScan.cons_eq_body_iff.mp scan
      exact List.cons_prefix_cons.mpr ⟨rfl, inductionHypothesis found⟩
  | case4 depth rest inductionHypothesis =>
      obtain ⟨later, found, rfl⟩ := LineScan.cons_eq_body_iff.mp scan
      exact List.cons_prefix_cons.mpr ⟨rfl, inductionHypothesis found⟩
  | case5 depth rest inductionHypothesis =>
      obtain ⟨later, found, rfl⟩ := LineScan.cons_eq_body_iff.mp scan
      exact List.cons_prefix_cons.mpr ⟨rfl, inductionHypothesis found⟩
  | case6 depth char rest _ _ _ inductionHypothesis =>
      obtain ⟨later, found, rfl⟩ := LineScan.cons_eq_body_iff.mp scan
      exact List.cons_prefix_cons.mpr ⟨rfl, inductionHypothesis found⟩

/-- A body begins outside all parentheses, so those that were open in front of it are closed. -/
theorem isSome_untilClosed_of_body (positive : 0 < depth)
    (scan : scanLine depth text = .body part) : (untilClosed depth part).isSome = true := by
  fun_induction untilClosed depth text generalizing part with
  | case1 depth => contradiction
  | case2 depth rest inductionHypothesis =>
      rw [scanLine] at scan
      obtain ⟨later, found, rfl⟩ := LineScan.cons_eq_body_iff.mp scan
      rw [untilClosed, Option.isSome_map]
      exact inductionHypothesis (Nat.succ_pos depth) found
  | case3 depth rest last =>
      rw [scanLine] at scan
      obtain ⟨later, -, rfl⟩ := LineScan.cons_eq_body_iff.mp scan
      rw [untilClosed, if_pos last]
      rfl
  | case4 depth rest more inductionHypothesis =>
      rw [scanLine] at scan
      obtain ⟨later, found, rfl⟩ := LineScan.cons_eq_body_iff.mp scan
      rw [untilClosed, if_neg more, Option.isSome_map]
      exact inductionHypothesis (by omega) found
  | case5 depth char rest noOpen noClose inductionHypothesis =>
      rw [scanLine_cons noOpen noClose (Or.inl positive)] at scan
      obtain ⟨later, found, rfl⟩ := LineScan.cons_eq_body_iff.mp scan
      rw [untilClosed_cons noOpen noClose, Option.isSome_map]
      exact inductionHypothesis positive found

end Line

/-- If the beginning of a text closes the open parentheses, the rest of the text does not count. -/
theorem untilClosed_eq_of_prefix {depth : Nat} {part text : Text} (isPrefix : part <+: text)
    (closes : (untilClosed depth part).isSome = true) :
    untilClosed depth text = untilClosed depth part := by
  obtain ⟨inner, found⟩ := Option.isSome_iff_exists.mp closes
  obtain ⟨rest, rfl⟩ := isPrefix
  rw [untilClosed_append found, found]

/-- The place where the collection ends does not change where the open parentheses are closed. -/
theorem untilClosed_collectFrom {depth : Nat} (positive : 0 < depth) (lines : List Text) :
    untilClosed depth (collectFrom depth lines) = untilClosed depth (joinLines lines) := by
  induction lines generalizing depth with
  | nil => rfl
  | cons line lines inductionHypothesis =>
      rw [joinLines, List.flatMap_cons, ← joinLines, collectFrom]
      generalize Text.dropEndWhile (· == '\r') line = line
      have space (text : Text) : untilClosed depth (' ' :: text) =
          (untilClosed depth text).map (' ' :: ·) :=
        untilClosed_cons (by decide) (by decide) depth text
      cases found : untilClosed depth line with
      | none =>
          -- A line that leaves a parenthesis open is collected as a whole.
          obtain ⟨later, stillOpen, scan, goesOn⟩ := scanLine_of_open positive found
          have noStop : (decide (later = 0) && line.getLast? == some ':') = false := by
            rw [decide_eq_false (Nat.ne_of_gt stillOpen), Bool.false_and]
          simp only [scan, noStop, Bool.false_eq_true, if_false]
          rw [List.cons_append, List.cons_append, space, space, goesOn, goesOn,
            inductionHypothesis stillOpen]
      | some inner =>
          -- What is cut off at the end of the line stands behind the parenthesis that closes.
          rw [List.cons_append, space (line ++ joinLines lines), untilClosed_append found]
          split
          next part scan =>
            have closes := isSome_untilClosed_of_body positive scan
            rw [space, ← untilClosed_eq_of_prefix (prefix_of_body scan) closes, found]
          next later scan =>
            split
            next colon =>
              rw [Bool.and_eq_true, beq_iff_eq] at colon
              obtain ⟨front, rfl⟩ := List.getLast?_eq_some_iff.mp colon.2
              have closes : (untilClosed depth front).isSome = true := by
                rw [Option.isSome_iff_ne_none]
                intro opened
                rw [untilClosed_append_eq_none opened (by decide)] at found
                contradiction
              rw [List.dropLast_concat, space,
                ← untilClosed_eq_of_prefix (List.prefix_append front _) closes, found]
            next => rw [List.cons_append, space, untilClosed_append found]

/-- What stands in front of the first parenthesis is collected as it is, unless a body begins in
it. -/
theorem scanLine_append {before : Text} (noOpen : '(' ∉ before) (noBody : '\x7b' ∉ before)
    (rest : Text) :
    scanLine 0 (before ++ rest) = before.foldr LineScan.cons (scanLine 0 rest) := by
  induction before with
  | nil => rfl
  | cons char before inductionHypothesis =>
      simp only [List.mem_cons, not_or] at noOpen noBody
      rw [List.foldr_cons, ← inductionHypothesis noOpen.2 noBody.2, List.cons_append]
      by_cases closing : char = ')'
      · rw [closing, scanLine]
      · exact scanLine_cons (Ne.symm noOpen.1) closing (Or.inr (Ne.symm noBody.1)) _

theorem foldr_cons_body (before part : Text) :
    before.foldr LineScan.cons (.body part) = .body (before ++ part) := by
  induction before with
  | nil => rfl
  | cons char before inductionHypothesis => rw [List.foldr_cons, inductionHypothesis]; rfl

theorem foldr_cons_open (before : Text) (depth : Nat) :
    before.foldr LineScan.cons (.open depth) = .open depth := by
  induction before with
  | nil => rfl
  | cons char before inductionHypothesis => rw [List.foldr_cons, inductionHypothesis]; rfl

/-- The collection behind the first parenthesis does not depend on what stands in front of it. -/
theorem exists_collectFrom_cons {before : Text} (noOpen : '(' ∉ before) (noBody : '\x7b' ∉ before)
    (after : Text) (lines : List Text) :
    ∃ rest, collectFrom 1 (after :: lines) = ' ' :: rest ∧
      collectFrom 0 ((before ++ '(' :: after) :: lines) = ' ' :: (before ++ '(' :: rest) := by
  rw [collectFrom, collectFrom, Text.dropEndWhile_append_cons _ before (by decide)]
  generalize Text.dropEndWhile (· == '\r') after = after
  have behind : scanLine 0 ('(' :: after) = (scanLine 1 after).cons '(' := by rw [scanLine]
  rw [scanLine_append noOpen noBody, behind]
  cases scan : scanLine 1 after with
  | body part =>
      rw [LineScan.cons, foldr_cons_body]
      exact ⟨part, rfl, rfl⟩
  | «open» later =>
      rw [LineScan.cons, foldr_cons_open]
      -- With nothing behind the parenthesis it is still open, so no colon can end the signature.
      rcases List.eq_nil_or_concat after with rfl | ⟨front, last, rfl⟩
      · obtain rfl : 1 = later := by simpa [scanLine] using scan
        exact ⟨collectFrom 1 lines, by simp, by simp⟩
      · have move : before ++ '(' :: (front ++ [last]) = (before ++ '(' :: front) ++ [last] := by
          simp
        rw [List.concat_eq_append, move]
        simp only [List.getLast?_concat, List.dropLast_concat]
        split
        next => exact ⟨front, rfl, rfl⟩
        next => exact ⟨front ++ [last] ++ collectFrom later lines, rfl, by simp⟩

/-- The given lines on one line, with single spaces between them. -/
def unwrapped (lines : List Text) : Text :=
  List.intercalate [' '] (lines.map (Text.dropEndWhile (· == '\r')))

/-- The first line of a signature loses its carriage returns, and the others are joined to it. -/
theorem unwrapped_cons (line : Text) (lines : List Text) :
    unwrapped (line :: lines) = Text.dropEndWhile (· == '\r') line ++ joinLines lines := by
  induction lines generalizing line with
  | nil => simp [unwrapped, joinLines, List.intercalate]
  | cons second lines inductionHypothesis =>
      have later := inductionHypothesis second
      rw [unwrapped, List.map_cons] at later
      rw [unwrapped, List.map_cons, List.map_cons, List.intercalate_cons_cons, later]
      simp [joinLines]

/-- What stands in front of the first parenthesis stays there. -/
theorem unwrapped_append_cons (before after : Text) (lines : List Text) :
    unwrapped ((before ++ '(' :: after) :: lines) = before ++ '(' :: unwrapped (after :: lines) := by
  rw [unwrapped_cons, unwrapped_cons, Text.dropEndWhile_append_cons _ before (by decide),
    List.append_assoc, List.cons_append]

/-- The parameter list of a signature is the one of all its lines. -/
theorem parenthesized?_collect {before : Text} (noOpen : '(' ∉ before) (noBody : '\x7b' ∉ before)
    (after : Text) (lines : List Text) :
    parenthesized? (collect ((before ++ '(' :: after) :: lines)) =
      parenthesized? (unwrapped ((before ++ '(' :: after) :: lines)) := by
  obtain ⟨rest, behind, collected⟩ := exists_collectFrom_cons noOpen noBody after lines
  have noOpenBehind : '(' ∉ ' ' :: before := by simpa using noOpen
  have same : untilClosed 1 rest = untilClosed 1 (unwrapped (after :: lines)) := by
    have joined : joinLines (after :: lines) = ' ' :: unwrapped (after :: lines) := by
      rw [unwrapped_cons]
      rfl
    have closed := untilClosed_collectFrom Nat.zero_lt_one (after :: lines)
    rw [behind, joined, untilClosed_cons (by decide) (by decide),
      untilClosed_cons (by decide) (by decide)] at closed
    exact Option.map_inj_right (fun _ _ same => (List.cons.inj same).2) |>.mp closed
  rw [collect, parenthesized?_trim, collected, ← List.cons_append, parenthesized?_cut noOpenBehind,
    unwrapped_append_cons, parenthesized?_cut noOpen, same]

/-- A parenthesis in front of the text and one behind it are partners. -/
def IsInside (inner : Text) : Prop :=
  inner.count ')' = inner.count '(' ∧
    ∀ length, (inner.take length).count ')' ≤ (inner.take length).count '('

instance (inner : Text) : Decidable (IsInside inner) :=
  have bounded : (∀ length < inner.length,
      (inner.take length).count ')' ≤ (inner.take length).count '(') ∧
        inner.count ')' = inner.count '(' ↔ IsInside inner := by
    constructor
    · rintro ⟨opened, counts⟩
      refine ⟨counts, fun length => ?_⟩
      by_cases short : length < inner.length
      · exact opened length short
      · rw [List.take_of_length_le (Nat.le_of_not_lt short)]
        exact Nat.le_of_eq counts
    · exact fun inside => ⟨fun length _ => inside.2 length, inside.1⟩
  decidable_of_iff _ bounded

/-- Text without parentheses is inside. -/
theorem IsInside.ofPlain {inner : Text} (noOpen : '(' ∉ inner) (noClose : ')' ∉ inner) :
    IsInside inner := by
  constructor
  · rw [List.count_eq_zero.mpr noClose, List.count_eq_zero.mpr noOpen]
  · intro length
    rw [List.count_eq_zero.mpr fun member => noClose (List.mem_of_mem_take member)]
    exact Nat.zero_le _

/-- The list ends at the parenthesis that closes as many as were opened. The induction is on the
text inside, for every depth. -/
theorem untilClosed_of_counts {depth : Nat} {inner : Text}
    (counts : inner.count ')' + 1 = inner.count '(' + depth)
    (opened : ∀ length, (inner.take length).count ')' < (inner.take length).count '(' + depth)
    (after : Text) : untilClosed depth (inner ++ ')' :: after) = some inner := by
  induction inner generalizing depth with
  | nil =>
      have last : depth = 1 := by simpa using counts.symm
      rw [List.nil_append, untilClosed, if_pos (Nat.le_of_eq last)]
  | cons char inner inductionHypothesis =>
      have later (length : Nat) := opened (length + 1)
      simp only [List.take_succ_cons] at later
      -- The depth grows with an opening parenthesis and shrinks with a closing one.
      by_cases opens : char = '('
      · subst opens
        simp only [List.count_cons_self, List.count_cons_of_ne (show '(' ≠ ')' by decide)]
          at counts later
        have closed := @inductionHypothesis (depth + 1) (by omega) fun length => by
          have early := later length
          omega
        rw [List.cons_append, untilClosed, closed]
        rfl
      by_cases closes : char = ')'
      · subst closes
        simp only [List.count_cons_self, List.count_cons_of_ne (show ')' ≠ '(' by decide)]
          at counts later
        have more : 1 < depth := by simpa using later 0
        have closed := @inductionHypothesis (depth - 1) (by omega) fun length => by
          have early := later length
          omega
        rw [List.cons_append, untilClosed, if_neg (Nat.not_le_of_lt more), closed]
        rfl
      · simp only [List.count_cons_of_ne opens, List.count_cons_of_ne closes] at counts later
        rw [List.cons_append, untilClosed_cons opens closes, inductionHypothesis counts later]
        rfl

/-- The parenthesis that closes the first one ends the parameter list. -/
theorem parenthesized?_of_isInside {head inner : Text} (noOpen : '(' ∉ head)
    (inside : IsInside inner) (tail : Text) :
    parenthesized? (head ++ '(' :: (inner ++ ')' :: tail)) = some inner := by
  rw [parenthesized?_cut noOpen]
  apply untilClosed_of_counts
  · rw [inside.1]
  · exact fun length => Nat.lt_succ_of_le (inside.2 length)

theorem parameters_congr {first second : Text}
    (same : parenthesized? first = parenthesized? second) : parameters first = parameters second := by
  rw [parameters, parameters, same]

/-- The parameters of a function are those of its signature on a single line. They depend only on the
text from the first parenthesis to the one that closes it. -/
theorem parametersAt_unwrapped {lines : List Text} {index : Nat} {before after : Text}
    (isLine : lines[index]? = some (before ++ '(' :: after)) (noBody : '\x7b' ∉ before) :
    parametersAt lines index = parameters (unwrapped (lines.drop index)) ∧
      ∀ head inner tail, unwrapped (lines.drop index) = head ++ '(' :: (inner ++ ')' :: tail) →
        '(' ∉ head → IsInside inner →
        parametersAt lines index = parameters ('(' :: (inner ++ [')'])) := by
  have whole : parametersAt lines index = parameters (unwrapped (lines.drop index)) := by
    obtain ⟨inRange, isLine⟩ := List.getElem?_eq_some_iff.mp isLine
    rw [parametersAt, List.drop_eq_getElem_cons inRange, isLine]
    apply parameters_congr
    cases cut : Text.cutAt? '(' before with
    | none => exact parenthesized?_collect (Text.cutAt?_eq_none_iff.mp cut) noBody after _
    | some parts =>
        obtain ⟨first, rest⟩ := parts
        obtain ⟨rfl, noOpen⟩ := Text.cutAt?_spec cut
        rw [List.append_assoc, List.cons_append]
        exact parenthesized?_collect noOpen (fun member => noBody (List.mem_append_left _ member)) _ _
  refine ⟨whole, fun head inner tail shape noOpen inside => ?_⟩
  rw [whole, shape]
  apply parameters_congr
  rw [parenthesized?_of_isInside noOpen inside]
  exact (parenthesized?_of_isInside List.not_mem_nil inside []).symm

/-- A constructor with an initializer list, whose parameters stand on two lines. -/
theorem parametersAt_unwrapped_ship :
    let lines := ["class Ship;".toList, "Ship::Ship(int length,\r".toList,
      "  std::function<void(int)> done) :".toList, "    cells(length) \x7b".toList,
      "\x7d".toList]
    let inner := "int length,   std::function<void(int)> done".toList
    lines[1]? = some ("Ship::Ship".toList ++ '(' :: "int length,\r".toList) ∧
      parametersAt lines 1 = parameters ('(' :: (inner ++ [')'])) ∧
      parametersAt lines 1 = ["length".toList, "done".toList] := by
  intro lines inner
  have isLine : lines[1]? = some ("Ship::Ship".toList ++ '(' :: "int length,\r".toList) := rfl
  have whole := parametersAt_unwrapped isLine (by decide)
  have same := whole.2 "Ship::Ship".toList inner " :     cells(length) \x7b \x7d".toList rfl
    (by decide) (by decide)
  exact ⟨isLine, same, by decide +kernel⟩

end HouseStyle.Signature
