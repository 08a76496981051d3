/-
This file proves that a report without colours adds no escape characters to the paths and the details
that it shows.
-/

import Mathlib.Algebra.GroupWithZero.Nat
import HouseStyle.Proofs.Json.Plain
import HouseStyle.Report.Format

namespace HouseStyle

namespace Report

open Listing

/-- The escape characters in the path and the details of an entry. -/
def Entry.escapeCount (entry : Entry) : Nat :=
  entry.path.count '\x1b' + (entry.problems.map fun problem => problem.detail.count '\x1b').sum

/-- The escape characters in the paths and the details of a report. -/
def escapeCount (report : Report) : Nat :=
  (report.entries.map Entry.escapeCount).sum

theorem count_label (kind : ProblemKind) : kind.label.count '\x1b' = 0 := by
  cases kind <;> decide

/-- A line without colours has the escape characters of the problem only. -/
theorem count_problemLine_plain (problem : Problem) :
    (problemLine .plain problem).count '\x1b' = problem.detail.count '\x1b' := by
  simp [problemLine, Palette.plain, count_label]

/-- A list without colours has the escape characters of the entry only. -/
theorem count_entry_plain (entry : Entry) :
    (entry.listing .plain).count '\x1b' = entry.escapeCount := by
  have path : (pathLine .plain entry.path).count '\x1b' = entry.path.count '\x1b' := by
    simp [pathLine, Palette.plain]
  have problems : (entry.problems.flatMap (problemLine .plain)).count '\x1b' =
      (entry.problems.map fun problem => problem.detail.count '\x1b').sum := by
    rw [List.count_flatMap]
    exact congrArg List.sum (List.map_congr_left fun problem _ => count_problemLine_plain problem)
  rw [Entry.listing, List.count_append, path, problems, Entry.escapeCount]

/-- A list without colours has the escape characters of the report only. -/
theorem count_listing_plain (report : Report) :
    (report.listing .plain).count '\x1b' =
      if report.hasProblems then report.escapeCount else 0 := by
  rw [listing]
  split
  next =>
    rw [List.count_flatMap]
    exact congrArg List.sum (List.map_congr_left fun entry _ => count_entry_plain entry)
  next => decide

/-- A report without colours has the escape characters of its paths and details at most. -/
theorem count_write_plain (format : Format) (report : Report) :
    (report.write format false).count '\x1b' ≤ report.escapeCount := by
  cases format with
  | text =>
      show (report.listing .plain).count '\x1b' ≤ report.escapeCount
      rw [count_listing_plain]
      split
      next => exact Nat.le_refl _
      next => exact Nat.zero_le _
  | json =>
      show report.document.write.count '\x1b' ≤ report.escapeCount
      rw [List.count_eq_zero.mpr (Json.escape_notMem_write _)]
      exact Nat.zero_le _

end Report

end HouseStyle
