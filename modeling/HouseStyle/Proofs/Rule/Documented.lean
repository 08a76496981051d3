/-
This file proves that a block documents the names that the scan of its lines finds, each name once.
-/

import Mathlib.Data.List.Basic
import HouseStyle.Proofs.Rule.Pattern

namespace HouseStyle.Documentation

variable {rule : Documentation}

/-- The names are the different texts of a list, in the order of their first occurrences. -/
structure AreFirst (texts names : List Text) : Prop where
  mem_iff : ∀ name, name ∈ names ↔ name ∈ texts
  ordered : names.Pairwise fun first second => texts.idxOf first < texts.idxOf second

/-- The induction is from the end of the list: one more text comes last, unless it was there before. -/
theorem areFirst_eraseDups (texts : List Text) : AreFirst texts texts.eraseDups := by
  refine ⟨fun _ => List.mem_eraseDups, ?_⟩
  induction texts using List.reverseRecOn with
  | nil => exact List.Pairwise.nil
  | append_singleton texts last inductionHypothesis =>
      have kept : texts.eraseDups.Pairwise fun first second =>
          (texts ++ [last]).idxOf first < (texts ++ [last]).idxOf second := by
        refine inductionHypothesis.imp_of_mem fun member alsoMember lower => ?_
        rwa [List.idxOf_append_of_mem (List.mem_eraseDups.mp member),
          List.idxOf_append_of_mem (List.mem_eraseDups.mp alsoMember)]
      rw [List.eraseDups_append]
      by_cases old : last ∈ texts
      · have nothing : [last].removeAll texts = [] := by simp [List.removeAll, old]
        rwa [nothing, List.eraseDups_nil, List.append_nil]
      · have new : [last].removeAll texts = [last] := by simp [List.removeAll, old]
        have single : [last].eraseDups = [last] := by simp [List.eraseDups_cons]
        rw [new, single]
        refine List.pairwise_append.mpr ⟨kept, List.pairwise_singleton _ _, ?_⟩
        intro first member second isLast
        obtain rfl := List.mem_singleton.mp isLast
        have earlier := List.mem_eraseDups.mp member
        rw [List.idxOf_append_of_mem earlier, List.idxOf_append_of_notMem old]
        exact Nat.lt_add_right _ (List.idxOf_lt_length_of_mem earlier)

theorem documented_tagged (start tag : Text) (lines : List Text) :
    documented ⟨start, tagged tag⟩ lines = (lines.flatMap (scan tag)).eraseDups := by
  rw [documented]
  simp only [captures_tagged]

/-- A function with a block is free of problems if and only if the block documents exactly its
parameters. -/
theorem checkFunction_eq_nil_iff {lines : List Text} {function : Function} {start : Nat}
    (found : rule.blockStart? lines function.line = some start) :
    rule.checkFunction lines function = [] ↔ ∀ name, name ∈ function.parameters ↔
      name ∈ rule.documented ((linesAbove lines function.line).drop start) := by
  rw [checkFunction, found]
  simp only [List.append_eq_nil_iff, List.map_eq_nil_iff, List.filter_eq_nil_iff,
    List.contains_eq_mem, Bool.not_eq_true', decide_eq_false_iff_not, Classical.not_not]
  constructor
  · rintro ⟨documented, known⟩ name
    exact ⟨documented name, known name⟩
  · intro same
    exact ⟨fun name => (same name).mp, fun name => (same name).mpr⟩

/-- The documented names of some lines are the names that the scan finds, each name once. The scan
finds a name wherever the trimmed tag stands literally in front of it. -/
theorem documented_eq_scan (config : DocumentationConfig) :
    let tag := Text.trim config.paramTag
    ∃ rule, ofConfig config = .ok rule ∧
      (∀ lines, AreFirst (lines.flatMap (scan tag)) (rule.documented lines)) ∧
      ∀ text name rest, mention? tag text = some (name, rest) ↔ Mentions tag text name rest := by
  intro tag
  refine ⟨_, ofConfig_eq_ok config, fun lines => ?_, fun _ _ _ => mention?_eq_some_iff⟩
  rw [documented_tagged]
  exact areFirst_eraseDups _

end HouseStyle.Documentation
