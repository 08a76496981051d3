/-
This file proves when the report on some files has one line for each path and each problem. Only a
forbidden expression with a line feed at its beginning can break a line.
-/

import HouseStyle.Proofs.Config.Validity
import HouseStyle.Proofs.Linter.Sequence
import HouseStyle.Proofs.Report.Collection
import HouseStyle.Proofs.Report.Rows
import HouseStyle.Proofs.Rule.LineFeed

namespace HouseStyle

/-- The expressions of a rule are written in the configuration. -/
theorem Rule.text_mem_of_forbidden {config : Config} {rules : List Rule}
    (built : ofConfig config = .ok rules) {patterns : List Forbidden.Pattern}
    (member : forbidden patterns ∈ rules) {pattern : Forbidden.Pattern}
    (isPattern : pattern ∈ patterns) : pattern.text ∈ config.forbidden.patterns := by
  obtain ⟨documentation, documentationBuilt, built⟩ := bind_eq_ok_iff.mp built
  obtain ⟨forbidden, forbiddenBuilt, built⟩ := bind_eq_ok_iff.mp built
  obtain rfl := Except.ok.inj built
  have ofEnabled {isEnabled : Bool} {rule other : Rule}
      (inEnabled : other ∈ enabled isEnabled rule) : other = rule :=
    List.mem_singleton.mp ((enabled_sublist isEnabled rule).subset inEnabled)
  -- The rules stand in a fixed order, each with a constructor of its own.
  simp only [List.mem_append] at member
  rcases member with (((lineLength | ordering) | spacing) | inDocumentation) | inForbidden
  · exact Rule.noConfusion (ofEnabled lineLength)
  · exact Rule.noConfusion (ofEnabled ordering)
  · exact Rule.noConfusion (ofEnabled spacing)
  · obtain ⟨rule, sublist⟩ := documentationRules_sublist documentationBuilt
    exact Rule.noConfusion (List.mem_singleton.mp (sublist.subset inDocumentation))
  · obtain ⟨configured, read, done⟩ := bind_eq_ok_iff.mp forbiddenBuilt
    obtain rfl := Except.ok.inj done
    obtain rfl := Rule.forbidden.inj (ofEnabled inForbidden)
    obtain ⟨text, inConfig, same⟩ := (mem_iff_of_mapM read).mp isPattern
    rw [Forbidden.Pattern.ofText] at same
    split at same
    next => contradiction
    next =>
      obtain rfl := Except.ok.inj same
      exact inConfig

namespace Linter

variable {linter : Linter} {files : List (Path × Text)}

/-- The lines of a source have no line feeds inside, and its symbols are parts of lines. -/
theorem source_isFlat (linter : Linter) (path : Path) (text : Text) :
    (linter.source path text).IsFlat where
  lines := fun _ => Text.not_mem_of_mem_lines
  symbols := by
    intro symbols known
    rcases linter.symbols_source path text with none | some
    · rw [none] at known
      contradiction
    · obtain rfl := Option.some.inj (some.symm.trans known)
      exact Symbols.ofLines_isFlat _ fun _ => Text.not_mem_of_mem_lines

/-- A line feed in a detail comes from an expression of the configuration. -/
theorem shows_of_mem {config : Config} (built : ofConfig config = .ok linter) {path : Path}
    {text : Text} {problem : Problem} (found : problem ∈ linter.check path text)
    (member : '\n' ∈ problem.detail) :
    ∃ pattern ∈ config.forbidden.patterns, problem.Shows pattern ∧ '\n' ∈ pattern.take 20 := by
  obtain ⟨rules, rulesBuilt, shape⟩ := ofConfig_eq_ok_iff.mp built
  obtain ⟨rule, inLinter, inner, byRule, rfl⟩ := mem_check found
  obtain ⟨patterns, rfl, pattern, isPattern, shows, inside⟩ :=
    (Rule.finds_of_mem_check byRule).shows_of_mem (linter.source_isFlat path text) member
  rw [shape] at inLinter
  exact ⟨pattern.text, Rule.text_mem_of_forbidden rulesBuilt inLinter isPattern, shows, inside⟩

/-- The problems of a report were found in its files. -/
theorem mem_problems_report {problem : Problem}
    (member : problem ∈ (linter.report (files.map .readable)).problems) :
    ∃ file ∈ files, problem ∈ linter.check file.1 file.2 := by
  obtain ⟨entry, inReport, inEntry⟩ := List.mem_flatMap.mp member
  rw [(linter.collects_report _).problems_eq entry inReport, problems_additions] at inEntry
  obtain ⟨found, inFiles, isProblem⟩ := List.mem_flatMap.mp inEntry
  obtain ⟨file, isFile, rfl⟩ := List.mem_map.mp (List.mem_filter.mp inFiles).1
  exact ⟨file, isFile, isProblem⟩

/-- The paths of a report are paths of its files. -/
theorem path_mem_of_entry {entry : Report.Entry}
    (member : entry ∈ (linter.report (files.map .readable)).entries) :
    ∃ file ∈ files, entry.path = file.1 := by
  obtain ⟨addition, first, same⟩ :=
    Option.map_eq_some_iff.mp ((linter.collects_report _).path_eq entry member)
  obtain ⟨found, inFiles, rfl⟩ := List.mem_map.mp (List.mem_of_find?_eq_some first)
  obtain ⟨file, isFile, rfl⟩ := List.mem_map.mp inFiles
  exact ⟨file, isFile, same.symm⟩

/-- The report of a valid configuration on files whose paths have no line feeds has one line for
each path and each problem if and only if no problem shows a forbidden expression with a line feed
among its first 20 characters. The number of its lines is right in this case only. -/
theorem report_lineByLine {config : Config} (valid : config.validate = .ok ()) :
    ∃ linter, ofConfig config = .ok linter ∧
      ∀ files : List (Path × Text), (∀ file ∈ files, '\n' ∉ file.1) →
        let report := linter.report (files.map .readable)
        report.hasProblems = true →
          (report.IsLineByLine ↔ ∀ problem ∈ report.problems,
            ∀ pattern ∈ config.forbidden.patterns, problem.Shows pattern → '\n' ∉ pattern.take 20) ∧
          (report.IsLineByLine ↔ report.CountsLines) := by
  obtain ⟨linter, built⟩ := (Config.validate_eq_ok_iff.mp valid).exists_linter
  refine ⟨linter, built, ?_⟩
  intro files plain report found
  have paths : ∀ entry ∈ report.entries, '\n' ∉ entry.path := by
    intro entry member
    obtain ⟨file, isFile, same⟩ := path_mem_of_entry member
    rw [same]
    exact plain file isFile
  have details := Report.isLineByLine_iff found paths
  refine ⟨details.trans ?_, details.trans (Report.countsLines_iff found paths).symm⟩
  constructor
  · intro flat problem member pattern _ shows inside
    exact flat problem member (shows.mem inside)
  · intro whole problem member inDetail
    obtain ⟨file, _, inFile⟩ := mem_problems_report member
    obtain ⟨pattern, isPattern, shows, inside⟩ := shows_of_mem built inFile inDetail
    exact whole problem member pattern isPattern shows inside

/-- Forbidden words in two files, with a long line in the second one. -/
theorem report_lineByLine_two_files :
    let expression := Regex.concat ("cout".toList.map fun char => .one (.single char))
    let config : Config :=
      { ordering := { enabled := false }, spacing := { enabled := false }
        documentation := { enabled := false }, lineLength := { max := 12 }
        forbidden := { patterns := ["cout".toList] } }
    let linter : Linter :=
      { rules := [.lineLength 12, .forbidden [⟨"cout".toList, expression⟩]]
        symbolExtensions := ["cpp".toList], frameworks := ["allegro".toList]
        unreported := ({} : ReportConfig).exclude }
    let files := [("b.h".toList, "  cout << 1;\n".toList),
      ("a.cpp".toList, "\n  cout << \"one\";".toList)]
    let report := linter.report (files.map .readable)
    config.validate = .ok () ∧ ofConfig config = .ok linter ∧ (∀ file ∈ files, '\n' ∉ file.1) ∧
      report.hasProblems = true ∧ report.problemCount = 3 ∧ report.IsLineByLine := by
  intro expression config linter files report
  have valid : config.validate = .ok () := rfl
  have built : ofConfig config = .ok linter := rfl
  have plain : ∀ file ∈ files, '\n' ∉ file.1 := by decide
  have found : report.hasProblems = true := by decide +kernel
  obtain ⟨other, otherBuilt, lineByLine⟩ := report_lineByLine valid
  obtain rfl := Except.ok.inj (built.symm.trans otherBuilt)
  refine ⟨valid, built, plain, found, by decide +kernel, ?_⟩
  refine (lineByLine files plain found).1.mpr fun problem _ pattern isPattern _ => ?_
  obtain rfl := List.mem_singleton.mp isPattern
  decide

/-- An expression that is written over two lines breaks the line of its problem. -/
theorem not_lineByLine_two_lines :
    let text := "(?x)\ncout".toList
    let expression : Regex :=
      .sequence .empty (Regex.concat ("cout".toList.map fun char => .one (.single char)))
    let config : Config := { forbidden := { patterns := [text] } }
    let linter : Linter :=
      { rules := [.lineLength 80, .ordering {}, .spacing 2, .documentation .standard,
          .forbidden [⟨text, expression⟩]]
        symbolExtensions := ["cpp".toList], frameworks := ["allegro".toList]
        unreported := ({} : ReportConfig).exclude }
    let report := linter.report ([("a.h".toList, "cout\n".toList)].map .readable)
    config.validate = .ok () ∧ ofConfig config = .ok linter ∧ report.hasProblems = true ∧
      report.entries.length = 1 ∧ report.problemCount = 1 ∧
      (Text.lines (report.write .text false)).length = 3 ∧ ¬ report.CountsLines ∧
      ∃ problem ∈ report.problems, '\n' ∈ problem.detail := by
  intro text expression config linter report
  have broken : ∃ problem ∈ report.problems, '\n' ∈ problem.detail := by decide +kernel
  have found : report.hasProblems = true := by decide +kernel
  have paths : ∀ entry ∈ report.entries, '\n' ∉ entry.path := by decide +kernel
  refine ⟨rfl, rfl, found, by decide +kernel, by decide +kernel, by decide +kernel, ?_, broken⟩
  intro counts
  obtain ⟨problem, member, inside⟩ := broken
  exact (Report.countsLines_iff found paths).mp counts problem member inside

end Linter

end HouseStyle
