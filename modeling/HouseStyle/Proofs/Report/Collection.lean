/-
This file proves that the report on several files depends on the problems of each file only. It does
not depend on the order of files with different paths.
-/

import HouseStyle.Proofs.Report.Summary
import HouseStyle.Program

namespace HouseStyle

open Report (Entry addAll entryOf? merged? contributions)

/-- A file with a text. -/
def FoundFile.readable (file : Path × Text) : FoundFile where
  path := file.1
  content := .text file.2

namespace Linter

/-- What a file adds to a report. -/
def addition (linter : Linter) (file : FoundFile) : Entry where
  path := file.path
  problems := if linter.reports file.path then linter.checkFile file else []

/-- A linter records the problems of a file if it reports the file. -/
theorem record_eq_add (linter : Linter) (report : Report) (file : FoundFile) :
    linter.record report file.path (linter.checkFile file) =
      report.add file.path (linter.addition file).problems := by
  rw [record, addition]
  split <;> rfl

/-- A report on files adds their problems one file after the other. -/
theorem report_eq_addAll (linter : Linter) (files : List FoundFile) :
    linter.report files = addAll { scanned := files.length } (files.map linter.addition) := by
  simp only [report, record_eq_add, addAll, List.foldl_map]
  rfl

/-- A report on files collects what is added for each file. -/
theorem collects_report (linter : Linter) (files : List FoundFile) :
    Report.Collects (files.map linter.addition) (linter.report files) := by
  rw [report_eq_addAll]
  exact Report.collects_addAll _ _

/-- The entry of a path consists of the additions of the files with this path. -/
theorem entryOf?_report (linter : Linter) (files : List FoundFile) (path : Path) :
    entryOf? (linter.report files).entries path =
      merged? (contributions path (files.map linter.addition)) := by
  rw [report_eq_addAll, Report.entryOf?_addAll_empty]

/-- Files with other paths contribute nothing to an entry. -/
theorem contributions_of_different (linter : Linter) {path : Path} {files : List FoundFile}
    (different : ∀ file ∈ files, Path.components file.path ≠ Path.components path) :
    contributions path (files.map linter.addition) = [] := by
  apply List.filter_eq_nil_iff.mpr
  intro addition member
  obtain ⟨file, inFiles, rfl⟩ := List.mem_map.mp member
  have apart : ¬ Path.same path file.path = true := by
    rw [Path.same_iff]
    exact fun equal => different file inFiles equal.symm
  simp [Linter.addition, apart]

/-- Files with other paths do not change the entry of a file. -/
theorem entryOf?_report_of_different (linter : Linter) {first second : List FoundFile}
    (file : FoundFile)
    (different : ∀ other ∈ first ++ second,
      Path.components other.path ≠ Path.components file.path) :
    entryOf? (linter.report (first ++ file :: second)).entries file.path =
      entryOf? (linter.report [file]).entries file.path := by
  have before := linter.contributions_of_different fun other member =>
    different other (List.mem_append_left _ member)
  have after := linter.contributions_of_different fun other member =>
    different other (List.mem_append_right _ member)
  rw [entryOf?_report, entryOf?_report, List.append_cons, List.map_append, List.map_append,
    Report.contributions_append, Report.contributions_append, before, after, List.nil_append,
    List.append_nil]

/-- Additions with different paths contribute at most once to an entry, so their order does not
matter. -/
theorem contributions_perm {path : Path} {first second : List Entry} (order : first.Perm second)
    (different : first.Pairwise fun one other =>
      Path.components one.path ≠ Path.components other.path) :
    contributions path first = contributions path second := by
  have alsoDifferent := (order.pairwise_iff fun apart => Ne.symm apart).mp different
  apply (order.filter _).eq_of_pairwise _ (different.filter _) (alsoDifferent.filter _)
  intro one other inFirst inSecond apart
  have own {addition : Entry} {additions : List Entry}
      (member : addition ∈ contributions path additions) :
      Path.components path = Path.components addition.path := by
    have contributes := (List.mem_filter.mp member).2
    rw [Bool.and_eq_true] at contributes
    exact Path.same_iff.mp contributes.1
  exact absurd ((own inFirst).symm.trans (own inSecond)) apart

variable {linter : Linter}

/-- The order of files with different paths does not matter. -/
theorem report_perm {first second : List FoundFile} (order : first.Perm second)
    (different : first.Pairwise fun one other =>
      Path.components one.path ≠ Path.components other.path) :
    linter.report first = linter.report second := by
  have apart : (first.map linter.addition).Pairwise fun one other =>
      Path.components one.path ≠ Path.components other.path :=
    List.pairwise_map.mpr different
  rw [report_eq_addAll, report_eq_addAll, order.length_eq]
  exact Report.addAll_eq_of_contributions List.Pairwise.nil fun path =>
    contributions_perm (order.map linter.addition) apart

/-- The problems that are added for a path are those of the reported files with this path. -/
theorem problems_additions (files : List FoundFile) (path : Path) :
    ((files.map linter.addition).filter (Entry.concerns path)).flatMap Entry.problems =
      (files.filter fun file => linter.reports file.path &&
        Path.components file.path == Path.components path).flatMap linter.checkFile := by
  induction files with
  | nil => rfl
  | cons file files inductionHypothesis =>
      rw [List.map_cons, List.filter_cons, List.filter_cons]
      have concerns : (linter.addition file).concerns path =
          (Path.components file.path == Path.components path) := rfl
      rw [concerns]
      cases Path.components file.path == Path.components path with
      | false =>
          rw [Bool.and_false]
          exact inductionHypothesis
      | true =>
          rw [Bool.and_true]
          cases reported : linter.reports file.path <;>
            simp [addition, reported, inductionHypothesis]

/-- A path has an entry if and only if one of its files is reported and has problems. -/
theorem exists_entry_iff (files : List FoundFile) (path : Path) :
    (∃ entry ∈ (linter.report files).entries,
      Path.components entry.path = Path.components path) ↔
    ∃ file ∈ files, Path.components file.path = Path.components path ∧
      linter.reports file.path = true ∧ linter.checkFile file ≠ [] := by
  rw [report_eq_addAll]
  constructor
  · rintro ⟨entry, member, same⟩
    have collects := Report.collects_addAll files.length (files.map linter.addition)
    have filled := collects.nonempty entry member
    rw [collects.problems_eq entry member, problems_additions, Ne, List.flatMap_eq_nil_iff] at filled
    obtain ⟨file, failure⟩ := Classical.not_forall.mp filled
    obtain ⟨inFiles, problems⟩ := Classical.not_imp.mp failure
    obtain ⟨inFiles, chosen⟩ := List.mem_filter.mp inFiles
    rw [Bool.and_eq_true, beq_iff_eq] at chosen
    exact ⟨file, inFiles, chosen.2.trans same, chosen.1, problems⟩
  · rintro ⟨file, member, same, reported, problems⟩
    obtain ⟨entry, inReport, samePath⟩ := Report.exists_entry_of_mem files.length
      (List.mem_map_of_mem member) (show (linter.addition file).problems ≠ [] by
        simpa [addition, reported] using problems)
    exact ⟨entry, inReport, samePath.trans same⟩

/-- The report on readable files has an entry for each reported path with problems, which consists of
the problems of the reported files with this path. Files with other paths do not matter for an entry,
and the order of files with different paths does not matter for the report and its written forms. -/
theorem report_decomposes (linter : Linter) (files : List (Path × Text)) :
    let report := linter.report (files.map .readable)
    (∀ path, (∃ entry ∈ report.entries, Path.components entry.path = Path.components path) ↔
      ∃ file ∈ files, Path.components file.1 = Path.components path ∧
        linter.reports file.1 = true ∧ linter.check file.1 file.2 ≠ []) ∧
    (report.entries.Pairwise fun first second =>
      Path.components first.path ≠ Path.components second.path) ∧
    (∀ entry ∈ report.entries, entry.problems =
      (files.filter fun file => linter.reports file.1 &&
        Path.components file.1 == Path.components entry.path).flatMap fun file =>
          linter.check file.1 file.2) ∧
    (∀ first file second, files = first ++ file :: second →
      (∀ other ∈ first ++ second, Path.components other.1 ≠ Path.components file.1) →
      entryOf? report.entries file.1 = entryOf? (linter.report [.readable file]).entries file.1) ∧
    ∀ others, files.Perm others →
      (files.Pairwise fun first second => Path.components first.1 ≠ Path.components second.1) →
      linter.report (others.map .readable) = report ∧
        ∀ format color, (linter.report (others.map .readable)).write format color =
          report.write format color := by
  intro report
  have collects : Report.Collects ((files.map .readable).map linter.addition) report := by
    rw [show report = _ from report_eq_addAll linter _]
    exact Report.collects_addAll _ _
  refine ⟨?_, collects.ordered.imp And.left, ?_, ?_, ?_⟩
  · intro path
    rw [exists_entry_iff]
    constructor
    · rintro ⟨file, member, found⟩
      obtain ⟨source, inFiles, rfl⟩ := List.mem_map.mp member
      exact ⟨source, inFiles, found⟩
    · rintro ⟨source, inFiles, found⟩
      exact ⟨.readable source, List.mem_map_of_mem inFiles, found⟩
  · intro entry member
    rw [collects.problems_eq entry member, problems_additions, List.filter_map, List.flatMap_map]
    rfl
  · intro first file second split different
    have apart : ∀ other ∈ first.map FoundFile.readable ++ second.map .readable,
        Path.components other.path ≠ Path.components file.1 := by
      intro other member
      rw [← List.map_append] at member
      obtain ⟨source, inFiles, rfl⟩ := List.mem_map.mp member
      exact different source inFiles
    have same := linter.entryOf?_report_of_different (.readable file) apart
    rw [← List.map_cons, ← List.map_append, ← split] at same
    exact same
  · intro others order different
    have apart : (files.map FoundFile.readable).Pairwise fun first second =>
        Path.components first.path ≠ Path.components second.path :=
      List.pairwise_map.mpr different
    have same : linter.report (others.map .readable) = report :=
      (report_perm (order.map FoundFile.readable) apart).symm
    exact ⟨same, fun format color => by rw [same]⟩

/-- Two long lines are found in two files in either order. The written reports are the same, and the
entry of a file is that of a report on this file alone. -/
theorem report_decomposes_two_files :
    let linter : Linter :=
      { rules := [.lineLength 3], symbolExtensions := [], frameworks := [], unreported := [] }
    let file := ("a-b".toList, "long".toList)
    let other := ("a/./b".toList, "longer".toList)
    let report := linter.report ([file, other].map .readable)
    report.entries.map (·.path) = ["a/./b".toList, "a-b".toList] ∧
    entryOf? report.entries "a-b".toList =
      entryOf? (linter.report [.readable file]).entries "a-b".toList ∧
    ∀ format color, (linter.report ([other, file].map .readable)).write format color =
      report.write format color := by
  intro linter file other report
  have decomposed := (report_decomposes linter [file, other]).2.2.2
  exact ⟨by decide, decomposed.1 [] file [other] rfl (by decide),
    (decomposed.2 [other, file] (List.Perm.swap _ _ _) (by decide)).2⟩

end Linter

end HouseStyle
