/-
This file proves when the listing of a report has exactly one line for each path and each problem.
-/

import HouseStyle.Proofs.Report.Summary
import HouseStyle.Proofs.Text.Basic
import HouseStyle.Proofs.Text.Lines

namespace HouseStyle

namespace Text

/-- The texts with a line feed behind each one. -/
def terminated (texts : List Text) : Text :=
  texts.flatMap (· ++ ['\n'])

theorem terminated_cons (text : Text) (texts : List Text) :
    terminated (text :: texts) = text ++ '\n' :: terminated texts := by
  simp [terminated]

/-- The last row is ended by a line feed, too. -/
theorem getLast?_terminated (texts : List Text) :
    terminated texts = [] ∨ (terminated texts).getLast? = some '\n' := by
  induction texts with
  | nil => exact Or.inl rfl
  | cons text texts inductionHypothesis =>
      right
      rw [terminated_cons, List.getLast?_append, List.getLast?_cons]
      rcases inductionHypothesis with empty | last
      · simp [empty]
      · simp [last]

/-- There is a line feed for each row, besides those inside. -/
theorem count_terminated (texts : List Text) :
    (terminated texts).count '\n' = texts.length + (texts.map (List.count '\n')).sum := by
  induction texts with
  | nil => rfl
  | cons text texts inductionHypothesis =>
      rw [terminated_cons, List.count_append, List.count_cons_self, inductionHypothesis,
        List.length_cons, List.map_cons, List.sum_cons]
      omega

/-- Texts without line feeds are the pieces between the line feeds. -/
theorem splitOn_terminated {texts : List Text} (flat : ∀ text ∈ texts, '\n' ∉ text) :
    List.splitOn '\n' (terminated texts) = texts ++ [[]] := by
  induction texts with
  | nil => rfl
  | cons text texts inductionHypothesis =>
      obtain ⟨here, later⟩ := List.forall_mem_cons.mp flat
      rw [terminated_cons, List.splitOn_append_cons_self_of_not_mem here,
        inductionHypothesis later, List.cons_append]

end Text

/-- The line of a problem in a listing without colours. -/
def Problem.row (problem : Problem) : Text :=
  "  ".toList ++ problem.kind.label ++ ": ".toList ++ problem.detail

namespace Report

def problems (report : Report) : List Problem :=
  report.entries.flatMap Entry.problems

/-- The path and the problems of a file, each on its line. -/
def Entry.rows (entry : Entry) : List Text :=
  entry.path :: entry.problems.map Problem.row

def rows (report : Report) : List Text :=
  report.entries.flatMap Entry.rows

/-- The listing has as many lines as the summary counts files and problems. -/
def CountsLines (report : Report) : Prop :=
  ∃ files problems, summaryCount? "files_with_problems".toList report.document = some files ∧
    summaryCount? "problem_count".toList report.document = some problems ∧
    (Text.lines (report.write .text false)).length = files + problems

/-- Every path and every problem has one line of its own in the listing. -/
structure IsLineByLine (report : Report) : Prop where
  count : report.CountsLines
  rows : List.splitOn '\n' (report.write .text false) = report.rows ++ [[]]
  details : ∀ problem ∈ report.problems, '\n' ∉ problem.detail

/-- The list of an entry without colours consists of its rows. -/
theorem Entry.listing_plain (entry : Entry) :
    entry.listing .plain = Text.terminated entry.rows := by
  have row (problem : Problem) : Listing.problemLine .plain problem = problem.row ++ ['\n'] := by
    simp [Listing.problemLine, Listing.Palette.plain, Problem.row]
  have path : Listing.pathLine .plain entry.path = entry.path ++ ['\n'] := by
    simp [Listing.pathLine, Listing.Palette.plain]
  rw [Entry.listing, path, funext row, Entry.rows, Text.terminated, List.flatMap_cons,
    List.flatMap_map]

variable {report : Report}

/-- A report with problems consists of its rows, if it is written as a text without colours. -/
theorem write_plain (found : report.hasProblems = true) :
    report.write .text false = Text.terminated report.rows := by
  have listing : report.write .text false = report.listing .plain := rfl
  rw [listing, Report.listing, if_pos found, funext Entry.listing_plain, Text.terminated, rows,
    List.flatMap_assoc]
  rfl

/-- There is a row for each path and one for each problem. -/
theorem length_rows (report : Report) :
    report.rows.length = report.entries.length + report.problemCount := by
  rw [rows, problemCount]
  induction report.entries with
  | nil => rfl
  | cons entry entries inductionHypothesis =>
      simp only [List.flatMap_cons, List.length_append, inductionHypothesis, Entry.rows,
        List.length_cons, List.length_map]
      omega

/-- Line feeds inside the rows are additional lines. -/
theorem length_lines_write (found : report.hasProblems = true) :
    (Text.lines (report.write .text false)).length =
      report.entries.length + report.problemCount + (report.rows.map (List.count '\n')).sum := by
  rw [write_plain found, Text.length_lines (Text.getLast?_terminated _), Text.count_terminated,
    length_rows]

theorem not_mem_label (kind : ProblemKind) : '\n' ∉ kind.label := by
  cases kind <;> decide

/-- A row is a single line if its detail is. -/
theorem not_mem_row_iff (problem : Problem) : '\n' ∉ problem.row ↔ '\n' ∉ problem.detail := by
  simp [Problem.row, not_mem_label]

/-- All rows are single lines if all details are. -/
theorem rows_flat_iff (paths : ∀ entry ∈ report.entries, '\n' ∉ entry.path) :
    (∀ row ∈ report.rows, '\n' ∉ row) ↔ ∀ problem ∈ report.problems, '\n' ∉ problem.detail := by
  simp only [← not_mem_row_iff]
  constructor
  · intro flat problem member
    obtain ⟨entry, inReport, inEntry⟩ := List.mem_flatMap.mp member
    exact flat _ (List.mem_flatMap.mpr
      ⟨entry, inReport, List.mem_cons_of_mem _ (List.mem_map_of_mem inEntry)⟩)
  · intro flat row member
    obtain ⟨entry, inReport, inEntry⟩ := List.mem_flatMap.mp member
    rcases List.mem_cons.mp inEntry with rfl | isProblem
    · exact paths entry inReport
    · obtain ⟨problem, inProblems, rfl⟩ := List.mem_map.mp isProblem
      exact flat problem (List.mem_flatMap.mpr ⟨entry, inReport, inProblems⟩)

/-- The number of lines is right only if no detail has a line feed. -/
theorem countsLines_iff (found : report.hasProblems = true)
    (paths : ∀ entry ∈ report.entries, '\n' ∉ entry.path) :
    report.CountsLines ↔ ∀ problem ∈ report.problems, '\n' ∉ problem.detail := by
  have counted : report.CountsLines ↔ (Text.lines (report.write .text false)).length =
      report.entries.length + report.problemCount := by
    simp only [CountsLines, summaryCount?_files, summaryCount?_problems, Option.some.injEq]
    constructor
    · rintro ⟨files, problems, rfl, rfl, lines⟩
      exact lines
    · exact fun lines => ⟨_, _, rfl, rfl, lines⟩
  rw [counted, length_lines_write found, ← rows_flat_iff paths, Nat.add_eq_left,
    List.sum_eq_zero_iff_forall_eq_nat]
  simp [List.count_eq_zero]

/-- A report can be read line by line if all details are single lines. -/
theorem isLineByLine_iff (found : report.hasProblems = true)
    (paths : ∀ entry ∈ report.entries, '\n' ∉ entry.path) :
    report.IsLineByLine ↔ ∀ problem ∈ report.problems, '\n' ∉ problem.detail := by
  constructor
  · exact IsLineByLine.details
  · intro flat
    exact { count := (countsLines_iff found paths).mpr flat
            rows := by
              rw [write_plain found]
              exact Text.splitOn_terminated ((rows_flat_iff paths).mpr flat)
            details := flat }

end Report

end HouseStyle
