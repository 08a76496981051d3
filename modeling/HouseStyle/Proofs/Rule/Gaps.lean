/-
This file proves that the scan for blank lines finds all pairs of lines that are too close together,
and nothing else.
-/

import HouseStyle.Proofs.Rule.Sequence

namespace HouseStyle.Spacing

/-- Two lines of a file, counted from 0, and the trigger of the upper one. -/
structure Gap where
  upper : Nat
  lower : Nat
  trigger : Trigger

namespace Gap

/-- The number of lines between the two lines. -/
def blankLines (gap : Gap) : Nat :=
  gap.lower - gap.upper - 1

/-- The upper line as the last line of a block. In reports, lines are counted from 1. -/
def block (gap : Gap) : Block :=
  { trigger := gap.trigger, lastLine := gap.upper + 1, blankLines := gap.blankLines }

/-- The upper line has the trigger, and between the two lines are blank lines only. -/
structure IsOpen (lines : List Text) (gap : Gap) : Prop where
  upperLine : ∃ line, lines[gap.upper]? = some line ∧ Text.isBlank line = false ∧
    Trigger.ofLine? line = some gap.trigger
  ordered : gap.upper < gap.lower
  between : ∀ index line, gap.upper < index → index < gap.lower → lines[index]? = some line →
    Text.isBlank line = true

/-- The lower line is not blank and does not continue the block of the upper one, and there are fewer
than `minimum` lines between the two lines. -/
structure IsCramped (minimum : Nat) (lines : List Text) (gap : Gap) : Prop
    extends IsOpen lines gap where
  lowerLine : ∃ line, lines[gap.lower]? = some line ∧ Text.isBlank line = false ∧
    Trigger.ofLine? line ≠ some gap.trigger
  few : gap.blankLines < minimum

variable {lines : List Text} {gap other : Gap}

/-- A gap is determined by its lower line and its block. -/
theorem eq_of_block_eq (sameLower : gap.lower = other.lower) (same : gap.block = other.block) :
    gap = other := by
  obtain ⟨upper, lower, trigger⟩ := gap
  obtain ⟨otherUpper, otherLower, otherTrigger⟩ := other
  simp only [block, Block.mk.injEq, Nat.add_right_cancel_iff] at same sameLower
  rw [sameLower, same.1, same.2.1]

/-- A line inside a gap is blank, so a line that is not blank is its upper line or does not lie in
it. -/
theorem IsOpen.upper_of_filled (isOpen : gap.IsOpen lines) {index : Nat} {line : Text}
    (inLines : lines[index]? = some line) (filled : Text.isBlank line = false)
    (above : index < gap.lower) : index ≤ gap.upper := by
  refine Nat.le_of_not_lt fun inside => ?_
  have blank := isOpen.between index line inside above inLines
  rw [filled] at blank
  contradiction

theorem IsCramped.lower_lt {minimum : Nat} (isCramped : gap.IsCramped minimum lines) :
    gap.lower < lines.length := by
  obtain ⟨line, inLines, -, -⟩ := isCramped.lowerLine
  exact (List.getElem?_eq_some_iff.mp inLines).1

end Gap

/-- The state of the scan above a line: the open block is the upper part of a gap down to this
line. -/
def Describes (lines : List Text) (number : Nat) (current : Option Block) : Prop :=
  ∀ block, current = some block ↔
    ∃ gap : Gap, gap.lower = number ∧ gap.IsOpen lines ∧ gap.block = block

/-- At the beginning no block is open. -/
theorem describes_none (lines : List Text) : Describes lines 0 none := by
  intro block
  constructor
  · intro same
    contradiction
  · rintro ⟨gap, top, isOpen, -⟩
    have ordered := isOpen.ordered
    omega

variable {lines : List Text} {number : Nat} {current : Option Block} {line : Text}

/-- A blank line lies in every gap that is open above it. -/
theorem isOpen_succ_of_blank (inLines : lines[number]? = some line)
    (blank : Text.isBlank line = true) (upper : Nat) (trigger : Trigger) :
    Gap.IsOpen lines ⟨upper, number + 1, trigger⟩ ↔ Gap.IsOpen lines ⟨upper, number, trigger⟩ := by
  constructor
  · rintro ⟨⟨upperLine, inUpper, filled, hasTrigger⟩, ordered, between⟩
    have different : upper ≠ number := by
      rintro rfl
      rw [Option.some.inj (inUpper.symm.trans inLines), blank] at filled
      contradiction
    refine ⟨⟨upperLine, inUpper, filled, hasTrigger⟩, ?_, fun index line above below =>
      between index line above (Nat.lt_succ_of_lt below)⟩
    simp only at ordered ⊢
    omega
  · rintro ⟨upperLine, ordered, between⟩
    refine ⟨upperLine, Nat.lt_succ_of_lt ordered, fun index other above below inOther => ?_⟩
    rcases Nat.lt_succ_iff_lt_or_eq.mp below with inside | rfl
    · exact between index other above inside inOther
    · rw [Option.some.inj (inOther.symm.trans inLines)]
      exact blank

/-- A gap below a line that is not blank starts at this line. -/
theorem isOpen_succ_of_filled (inLines : lines[number]? = some line)
    (filled : Text.isBlank line = false) (upper : Nat) (trigger : Trigger) :
    Gap.IsOpen lines ⟨upper, number + 1, trigger⟩ ↔
      upper = number ∧ Trigger.ofLine? line = some trigger := by
  constructor
  · intro isOpen
    have lower := isOpen.upper_of_filled inLines filled (Nat.lt_succ_self number)
    have ordered := isOpen.ordered
    obtain rfl : upper = number := by
      simp only at lower ordered
      omega
    obtain ⟨upperLine, inUpper, -, hasTrigger⟩ := isOpen.upperLine
    rw [Option.some.inj (inUpper.symm.trans inLines)] at hasTrigger
    exact ⟨rfl, hasTrigger⟩
  · rintro ⟨rfl, hasTrigger⟩
    refine ⟨⟨line, inLines, filled, hasTrigger⟩, Nat.lt_succ_self upper, ?_⟩
    intro index other above below
    simp only at above below
    omega

/-- One line keeps the description of the state. -/
theorem Describes.openAfter (describes : Describes lines number current)
    (inLines : lines[number]? = some line) :
    Describes lines (number + 1) (openAfter current (number + 1) line) := by
  intro block
  rw [Spacing.openAfter]
  split
  next blank =>
    rw [Option.map_eq_some_iff]
    constructor
    · rintro ⟨old, isCurrent, rfl⟩
      obtain ⟨⟨upper, lower, trigger⟩, rfl, isOpen, rfl⟩ := (describes old).mp isCurrent
      refine ⟨⟨upper, lower + 1, trigger⟩, rfl,
        (isOpen_succ_of_blank inLines blank upper trigger).mpr isOpen, ?_⟩
      have ordered := isOpen.ordered
      simp only [Gap.block, Gap.blankLines, Block.mk.injEq, true_and] at ordered ⊢
      omega
    · rintro ⟨⟨upper, lower, trigger⟩, rfl, isOpen, rfl⟩
      have above := (isOpen_succ_of_blank inLines blank upper trigger).mp isOpen
      refine ⟨_, (describes _).mpr ⟨_, rfl, above, rfl⟩, ?_⟩
      have ordered := above.ordered
      simp only [Gap.block, Gap.blankLines, Block.mk.injEq, true_and] at ordered ⊢
      omega
  next filled =>
    rw [Bool.not_eq_true] at filled
    rw [Option.map_eq_some_iff]
    constructor
    · rintro ⟨trigger, hasTrigger, rfl⟩
      refine ⟨⟨number, number + 1, trigger⟩, rfl,
        (isOpen_succ_of_filled inLines filled number trigger).mpr ⟨rfl, hasTrigger⟩, ?_⟩
      simp [Gap.block, Gap.blankLines]
    · rintro ⟨⟨upper, lower, trigger⟩, rfl, isOpen, rfl⟩
      obtain ⟨rfl, hasTrigger⟩ := (isOpen_succ_of_filled inLines filled upper trigger).mp isOpen
      refine ⟨trigger, hasTrigger, ?_⟩
      simp [Gap.block, Gap.blankLines]

/-- A line reports the gap that it ends. -/
theorem Describes.crampedBy?_eq_some_iff (describes : Describes lines number current)
    (inLines : lines[number]? = some line) {minimum : Nat} {block : Block} :
    crampedBy? minimum line current = some block ↔
      ∃ gap : Gap, gap.lower = number ∧ gap.IsCramped minimum lines ∧ gap.block = block := by
  rw [crampedBy?, Option.filter_eq_some_iff, describes block]
  simp only [Bool.and_eq_true, Bool.not_eq_true', bne_iff_ne, decide_eq_true_eq]
  constructor
  · rintro ⟨⟨gap, rfl, isOpen, rfl⟩, ⟨filled, ends⟩, few⟩
    exact ⟨gap, rfl, ⟨isOpen, ⟨line, inLines, filled, ends⟩, few⟩, rfl⟩
  · rintro ⟨gap, rfl, ⟨isOpen, ⟨lowerLine, inLower, filled, ends⟩, few⟩, rfl⟩
    obtain rfl := Option.some.inj (inLower.symm.trans inLines)
    exact ⟨⟨gap, rfl, isOpen, rfl⟩, ⟨filled, ends⟩, few⟩

/-- The problems below a line belong to the gaps that end there, from the top of the file to the
bottom. -/
theorem Describes.checkFrom (describes : Describes lines number current) (minimum : Nat)
    {rest : List Text} (isRest : lines.drop number = rest) :
    ∃ gaps : List Gap,
      checkFrom minimum current (number + 1) rest = gaps.map (cramped minimum ∘ Gap.block) ∧
      gaps.Pairwise (fun first second => first.upper < second.upper) ∧
      ∀ gap, gap ∈ gaps ↔ gap.IsCramped minimum lines ∧ number ≤ gap.lower := by
  induction rest generalizing number current with
  | nil =>
      refine ⟨[], rfl, List.Pairwise.nil, fun gap => ⟨fun member => absurd member List.not_mem_nil, ?_⟩⟩
      rintro ⟨isCramped, below⟩
      have noRest := List.drop_eq_nil_iff.mp isRest
      exact absurd isCramped.lower_lt (by omega)
  | cons line rest inductionHypothesis =>
      have inLines : lines[number]? = some line := by
        rw [← Nat.add_zero number, ← List.getElem?_drop, isRest]
        rfl
      have isLater : lines.drop (number + 1) = rest := by
        rw [← List.drop_drop, isRest]
        rfl
      obtain ⟨gaps, found, ascending, exact⟩ :=
        inductionHypothesis (describes.openAfter inLines) isLater
      rw [checkFrom_cons, found]
      have ended := @Describes.crampedBy?_eq_some_iff _ _ _ _ describes inLines minimum
      cases here : crampedBy? minimum line current with
      | none =>
          refine ⟨gaps, rfl, ascending, fun gap => (exact gap).trans ?_⟩
          refine and_congr_right fun isCramped => ⟨Nat.le_of_succ_le, fun below => ?_⟩
          refine Nat.lt_of_le_of_ne below fun atLine => ?_
          have block := ended.mpr ⟨gap, atLine.symm, isCramped, rfl⟩
          rw [here] at block
          contradiction
      | some block =>
          obtain ⟨first, atLine, isCramped, rfl⟩ := ended.mp here
          refine ⟨first :: gaps, rfl, List.pairwise_cons.mpr ⟨fun gap member => ?_, ascending⟩,
            fun gap => ?_⟩
          · -- The line that ends the first gap is not blank, so no later gap reaches over it.
            obtain ⟨later, below⟩ := (exact gap).mp member
            obtain ⟨lowerLine, inLower, filled, -⟩ := isCramped.lowerLine
            have apart := later.upper_of_filled inLower filled (by omega)
            exact Nat.lt_of_lt_of_le isCramped.ordered apart
          · rw [List.mem_cons, exact]
            constructor
            · rintro (rfl | ⟨later, below⟩)
              · exact ⟨isCramped, Nat.le_of_eq atLine.symm⟩
              · exact ⟨later, Nat.le_of_succ_le below⟩
            · rintro ⟨alsoCramped, below⟩
              rcases Nat.eq_or_lt_of_le below with alsoHere | later
              · left
                have same := here.symm.trans (ended.mpr ⟨gap, alsoHere.symm, alsoCramped, rfl⟩)
                exact (Gap.eq_of_block_eq (atLine.trans alsoHere) (Option.some.inj same)).symm
              · exact Or.inr ⟨alsoCramped, later⟩

/-- The check lists the problems of all pairs of lines that are too close together, each pair once,
from the top of the file to the bottom. Below the last line with text there is nothing to report. -/
theorem check_eq_map_gaps (minimum : Nat) (source : Source) :
    (∃ gaps : List Gap,
      check minimum source = gaps.map (cramped minimum ∘ Gap.block) ∧
      gaps.Pairwise (fun first second => first.upper < second.upper) ∧
      ∀ gap, gap ∈ gaps ↔ gap.IsCramped minimum source.lines) ∧
    ∀ upper, (∀ index line, upper < index → source.lines[index]? = some line →
        Text.isBlank line = true) →
      ∀ problem ∈ check minimum source, problem.line ≠ upper + 1 := by
  obtain ⟨gaps, found, ascending, exact⟩ :=
    (describes_none source.lines).checkFrom minimum List.drop_zero
  refine ⟨⟨gaps, found, ascending, fun gap => (exact gap).trans (by simp)⟩, ?_⟩
  intro upper blankBelow problem member
  rw [check, found] at member
  obtain ⟨gap, isGap, rfl⟩ := List.mem_map.mp member
  obtain ⟨isCramped, -⟩ := (exact gap).mp isGap
  obtain ⟨lowerLine, inLower, filled, -⟩ := isCramped.lowerLine
  intro same
  obtain rfl : gap.upper = upper := Nat.add_right_cancel same
  rw [blankBelow gap.lower lowerLine isCramped.ordered inLower] at filled
  contradiction

/-- The line that ends a block of braces opens a block of its own, and the block at the end of the
file is not reported. -/
theorem check_eq_map_gaps_chain :
    let lines := ["\x7d".toList, "using a;".toList, " ".toList, "int b;".toList, "\x7d".toList, []]
    let brace : Gap := { upper := 0, lower := 1, trigger := .closeBrace }
    let directive : Gap := { upper := 1, lower := 3, trigger := .using }
    brace.IsCramped 2 lines ∧ directive.IsCramped 2 lines ∧
      cramped 2 brace.block ∈ check 2 { lines, symbols := none } ∧
      cramped 2 directive.block ∈ check 2 { lines, symbols := none } ∧
      ∀ problem ∈ check 2 { lines, symbols := none }, problem.line ≠ 5 := by
  intro lines brace directive
  have braceIsCramped : brace.IsCramped 2 lines :=
    ⟨⟨⟨_, rfl, rfl, rfl⟩, by decide, fun index line above below _ => by
      simp only [brace] at above below; omega⟩, ⟨_, rfl, rfl, by decide⟩, by decide⟩
  have directiveIsCramped : directive.IsCramped 2 lines := by
    refine ⟨⟨⟨_, rfl, rfl, rfl⟩, by decide, fun index line above below inLines => ?_⟩,
      ⟨_, rfl, rfl, by decide⟩, by decide⟩
    obtain rfl : index = 2 := by simp only [directive] at above below; omega
    rw [← Option.some.inj inLines]
    rfl
  obtain ⟨⟨gaps, found, -, exact⟩, atEnd⟩ := check_eq_map_gaps 2 { lines, symbols := none }
  refine ⟨braceIsCramped, directiveIsCramped, ?_, ?_, atEnd 4 fun index line above inLines => ?_⟩
  · rw [found]
    exact List.mem_map_of_mem ((exact brace).mpr braceIsCramped)
  · rw [found]
    exact List.mem_map_of_mem ((exact directive).mpr directiveIsCramped)
  · have last : index < lines.length := (List.getElem?_eq_some_iff.mp inLines).1
    obtain rfl : index = 5 := by simp only [lines, List.length_cons, List.length_nil] at last; omega
    rw [← Option.some.inj inLines]
    rfl

end HouseStyle.Spacing
