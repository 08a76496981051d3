/-
This file proves that the text behind the target of an include directive decides about its category
if and only if it mentions a framework.
-/

import HouseStyle.Proofs.Source.WellFormed

namespace HouseStyle

namespace Include

/-- The text starts with an opening angle and the beginning of a framework target. -/
def StartsFramework (frameworks : List Text) (text : Text) : Prop :=
  ∃ start ∈ frameworks, '<' :: start <+: text

/-- An opening angle with the beginning of a framework target stands somewhere in the text. -/
def MentionsFramework (frameworks : List Text) (text : Text) : Prop :=
  ∃ start ∈ frameworks, '<' :: start <:+: text

/-- The beginning of the target alone decides about the category. -/
structure IsDecidedByStart (frameworks : List Text) (directive : Include) : Prop where
  framework : directive.category = .framework ↔ StartsFramework frameworks directive.target
  system : directive.category = .system ↔
    directive.target.head? = some '<' ∧ ¬ StartsFramework frameworks directive.target
  project : directive.category = .project ↔ directive.target.head? ≠ some '<'

variable {frameworks : List Text}

theorem StartsFramework.head? {text : Text} (starts : StartsFramework frameworks text) :
    text.head? = some '<' := by
  obtain ⟨start, -, rest, rfl⟩ := starts
  rfl

/-- A framework is mentioned at the beginning or behind the first character. -/
theorem mentionsFramework_iff {text : Text} :
    MentionsFramework frameworks text ↔
      StartsFramework frameworks text ∨ MentionsFramework frameworks text.tail := by
  cases text with
  | nil => simp [MentionsFramework, StartsFramework]
  | cons char rest =>
      simp only [MentionsFramework, StartsFramework, List.infix_cons_iff, and_or_left, exists_or,
        List.tail_cons]

/-- A longer text mentions what its parts mention. -/
theorem MentionsFramework.mono {text longer : Text} (mentions : MentionsFramework frameworks text)
    (inside : text <:+: longer) : MentionsFramework frameworks longer := by
  obtain ⟨start, member, here⟩ := mentions
  exact ⟨start, member, here.trans inside⟩

/-- An include that mentions a framework anywhere belongs to it. -/
theorem categorize_of_mentions {target : Text} (mentions : MentionsFramework frameworks target) :
    categorize frameworks target = .framework := by
  obtain ⟨start, member, here⟩ := mentions
  have found : (frameworks.any fun start => Text.occurs ('<' :: start) target) = true :=
    List.any_eq_true.mpr ⟨start, member, Text.occurs_iff.mpr here⟩
  rw [categorize, if_pos found]

/-- Without a framework the first character decides. -/
theorem categorize_of_not_mentions {target : Text}
    (silent : ¬ MentionsFramework frameworks target) :
    categorize frameworks target = if target.head? = some '<' then .system else .project := by
  have none : ¬ (frameworks.any fun start => Text.occurs ('<' :: start) target) = true := by
    intro found
    obtain ⟨start, member, here⟩ := List.any_eq_true.mp found
    exact silent ⟨start, member, Text.occurs_iff.mp here⟩
  rw [categorize, if_neg none]
  simp only [beq_iff_eq]

/-- The category of a target is decided by its beginning, unless a framework is mentioned behind a
beginning that is none. -/
theorem isDecidedByStart_iff {directive : Include}
    (category : directive.category = categorize frameworks directive.target) :
    directive.IsDecidedByStart frameworks ↔
      (MentionsFramework frameworks directive.target.tail →
        StartsFramework frameworks directive.target) := by
  constructor
  · intro decided mentions
    refine decided.framework.mp (category.trans (categorize_of_mentions ?_))
    exact mentionsFramework_iff.mpr (Or.inr mentions)
  · intro agrees
    by_cases starts : StartsFramework frameworks directive.target
    · have isFramework : directive.category = .framework :=
        category.trans (categorize_of_mentions (mentionsFramework_iff.mpr (Or.inl starts)))
      constructor <;> simp [isFramework, starts, starts.head?]
    · have silent : ¬ MentionsFramework frameworks directive.target := fun mentions =>
        starts ((mentionsFramework_iff.mp mentions).elim id agrees)
      rw [categorize_of_not_mentions silent] at category
      by_cases angle : directive.target.head? = some '<'
      · constructor <;> simp [category, starts, angle]
      · constructor <;> simp [category, starts, angle]

/-- More text behind a target changes its category if and only if it brings in a framework. -/
theorem categorize_eq_of_prefix_iff {target longer : Text} (filled : target ≠ [])
    (inside : target <+: longer) :
    categorize frameworks longer = categorize frameworks target ↔
      (MentionsFramework frameworks longer → MentionsFramework frameworks target) := by
  obtain ⟨after, rfl⟩ := inside
  by_cases mentions : MentionsFramework frameworks target
  · have later := mentions.mono (List.prefix_append target after).isInfix
    simp [categorize_of_mentions mentions, categorize_of_mentions later, mentions]
  · have sameStart : (target ++ after).head? = target.head? := by
      obtain ⟨char, rest, rfl⟩ := List.exists_cons_of_ne_nil filled
      rfl
    by_cases later : MentionsFramework frameworks (target ++ after)
    · rw [categorize_of_mentions later, categorize_of_not_mentions mentions]
      split <;> simp [later, mentions]
    · simp [categorize_of_not_mentions later, categorize_of_not_mentions mentions, sameStart, later]

end Include

namespace Symbols

open Include

/-- The category of an include is that of its target. -/
theorem category_of_mem_includesFrom {frameworks : List Text} {number : Nat} {lines : List Text}
    {directive : Include} (member : directive ∈ includesFrom frameworks number lines) :
    directive.category = categorize frameworks directive.target := by
  induction lines generalizing number with
  | nil => exact absurd member List.not_mem_nil
  | cons line lines inductionHypothesis =>
      rw [includesFrom] at member
      split at member
      next => exact inductionHypothesis member
      next =>
        rcases List.mem_cons.mp member with rfl | later
        · rfl
        · exact inductionHypothesis later

/-- The beginning of a recorded target decides about its category if and only if no framework is
mentioned behind a beginning that is none. More text behind the target on another line changes the
category if and only if it brings in a framework. -/
theorem includeCategory_decided_iff {frameworks : List Text} {text : Text} {directive : Include}
    (member : directive ∈ (ofText frameworks text).includes) :
    (directive.IsDecidedByStart frameworks ↔
      (MentionsFramework frameworks directive.target.tail →
        StartsFramework frameworks directive.target)) ∧
    ∀ otherText, ∀ other ∈ (ofText frameworks otherText).includes,
      directive.target ≠ [] → directive.target <+: other.target →
        (other.category = directive.category ↔
          (MentionsFramework frameworks other.target →
            MentionsFramework frameworks directive.target)) := by
  have category := category_of_mem_includesFrom member
  refine ⟨isDecidedByStart_iff category, fun otherText other otherMember filled inside => ?_⟩
  rw [category_of_mem_includesFrom otherMember, category]
  exact categorize_eq_of_prefix_iff filled inside

/-- A comment that mentions a framework changes the category of a system header, and a mention of a
system header does not change the category of a framework. -/
theorem includeCategory_decided_iff_comment :
    let frameworks := ["allegro".toList]
    let plain := "#include <vector>\n".toList
    let commented := "#include <vector> // not <allegro5/allegro.h>\n".toList
    let directive : Include := { target := "<vector>".toList, line := 1, category := .system }
    let other : Include :=
      { target := "<vector> // not <allegro5/allegro.h>".toList, line := 1, category := .framework }
    directive ∈ (ofText frameworks plain).includes ∧
      other ∈ (ofText frameworks commented).includes ∧
      (directive.IsDecidedByStart frameworks ↔
        (MentionsFramework frameworks directive.target.tail →
          StartsFramework frameworks directive.target)) ∧
      (other.category = directive.category ↔
        (MentionsFramework frameworks other.target →
          MentionsFramework frameworks directive.target)) := by
  intro frameworks plain commented directive other
  have member : directive ∈ (ofText frameworks plain).includes := by decide
  have otherMember : other ∈ (ofText frameworks commented).includes := by decide
  obtain ⟨decided, longer⟩ := includeCategory_decided_iff member
  exact ⟨member, otherMember, decided,
    longer commented other otherMember (by decide) (by decide)⟩

/-- A comment can make a framework of a header of the project. -/
theorem not_includeCategory_decided :
    ¬ ∀ frameworks text, [] ∉ frameworks → ∀ directive ∈ (ofText frameworks text).includes,
      directive.IsDecidedByStart frameworks := by
  intro decided
  have recorded : (ofText ["allegro".toList]
      "#include \"mob.h\" // see <allegro5/allegro.h>\n".toList).includes =
        [{ target := "\"mob.h\" // see <allegro5/allegro.h>".toList, line := 1
           category := .framework }] := by
    decide
  have start := (decided _ _ (by decide) _ (recorded ▸ List.mem_singleton_self _)).framework.mp rfl
  exact absurd start.head? (by decide)

end Symbols

end HouseStyle
