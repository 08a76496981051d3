/-
This file proves that the four views of a report agree: its verdict, its count, its listing and its
machine-readable form.
-/

import HouseStyle.Proofs.Report.Entries
import HouseStyle.Report.Format

namespace HouseStyle

namespace Json

/-- The value of a field of an object. -/
def field? (name : Text) : Json → Option Json
  | object fields => fields.lookup name
  | _ => none

/-- The items of a list. Everything else has none. -/
def items : Json → List Json
  | list items => items
  | _ => []

def number? : Json → Option Nat
  | number value => some value
  | _ => none

/-- The items of the list in a field. -/
def itemsOf (name : Text) (document : Json) : List Json :=
  ((document.field? name).map items).getD []

end Json

namespace Report

/-- A number in the summary of a machine-readable report. -/
def summaryCount? (name : Text) (document : Json) : Option Nat :=
  ((document.field? "summary".toList).bind (Json.field? name)).bind Json.number?

/-- The files that a machine-readable report lists. -/
def listedFiles (document : Json) : List Json :=
  document.itemsOf "files".toList

/-- The problems that a machine-readable report lists, file by file. -/
def listedProblems (document : Json) : List Json :=
  (listedFiles document).flatMap (Json.itemsOf "problems".toList)

/-- The addition is for the path, up to its spelling. -/
def Entry.concerns (path : Path) (addition : Entry) : Bool :=
  Path.components addition.path == Path.components path

/-- The report consists of what some additions contain. -/
structure Collects (additions : List Entry) (report : Report) : Prop where
  /-- The paths are different and ordered by their components. -/
  ordered : report.entries.Pairwise fun first second =>
    Path.components first.path ≠ Path.components second.path ∧
      List.Lex Path.Component.Precedes (Path.components first.path) (Path.components second.path)
  /-- Every addition with problems has an entry. -/
  complete : ∀ addition ∈ additions, addition.problems ≠ [] →
    ∃ entry ∈ report.entries, Path.components entry.path = Path.components addition.path
  /-- A path is spelled as in the first addition that has problems for it. -/
  path_eq : ∀ entry ∈ report.entries,
    (additions.find? fun addition =>
      addition.concerns entry.path && !addition.problems.isEmpty).map Entry.path = some entry.path
  /-- The problems of a path stand in the order in which they were added. -/
  problems_eq : ∀ entry ∈ report.entries,
    entry.problems = (additions.filter (Entry.concerns entry.path)).flatMap Entry.problems
  nonempty : ∀ entry ∈ report.entries, entry.problems ≠ []
  count : report.problemCount = (additions.map fun addition => addition.problems.length).sum

theorem concerns_eq (path : Path) (addition : Entry) :
    addition.concerns path = Path.same path addition.path := by
  rw [Bool.eq_iff_iff, Path.same_iff, Entry.concerns, beq_iff_eq, eq_comm]

/-- Additions without problems contribute nothing. -/
theorem contributions_eq (path : Path) (additions : List Entry) :
    contributions path additions =
      additions.filter fun addition =>
        addition.concerns path && !addition.problems.isEmpty := by
  simp only [contributions, concerns_eq]

/-- Additions without problems contribute nothing. -/
theorem flatMap_contributions (path : Path) (additions : List Entry) :
    (contributions path additions).flatMap Entry.problems =
      (additions.filter (Entry.concerns path)).flatMap Entry.problems := by
  rw [contributions_eq]
  induction additions with
  | nil => rfl
  | cons addition additions inductionHypothesis =>
      rw [List.filter_cons, List.filter_cons]
      cases addition.concerns path with
      | false => exact inductionHypothesis
      | true =>
          cases empty : addition.problems.isEmpty with
          | false => simp [inductionHypothesis]
          | true => simp [inductionHypothesis, List.isEmpty_iff.mp empty]

/-- The merged entry has the first path and all problems. -/
theorem merged?_eq_some {additions : List Entry} {entry : Entry}
    (found : merged? additions = some entry) :
    additions.head?.map Entry.path = some entry.path ∧
      entry.problems = additions.flatMap Entry.problems := by
  cases additions with
  | nil => simp [merged?] at found
  | cons first others =>
      obtain rfl := Option.some.inj found
      exact ⟨rfl, rfl⟩

section Empty

variable {scanned : Nat} {additions : List Entry}

theorem ordered_empty (scanned : Nat) : Ordered ({ scanned } : Report).entries :=
  List.Pairwise.nil

/-- In a report that was empty, an entry consists of the contributions to it. -/
theorem entryOf?_addAll_empty (scanned : Nat) (path : Path) :
    entryOf? (addAll { scanned } additions).entries path =
      merged? (contributions path additions) :=
  entryOf?_addAll additions (ordered_empty scanned) path

/-- An entry of a report merges what was added for its path. -/
theorem merged?_of_mem {entry : Entry} (member : entry ∈ (addAll { scanned } additions).entries) :
    merged? (contributions entry.path additions) = some entry := by
  rw [← entryOf?_addAll_empty scanned, ((ordered_empty scanned).addAll additions).entryOf?_eq_some_iff]
  exact member

/-- No entry of a report is empty. -/
theorem problems_ne_nil_of_mem {entry : Entry}
    (member : entry ∈ (addAll { scanned } additions).entries) : entry.problems ≠ [] := by
  have merged := merged?_of_mem member
  cases shape : contributions entry.path additions with
  | nil => simp [shape, merged?] at merged
  | cons first others =>
      have contributes : first ∈ contributions entry.path additions := by simp [shape]
      have filled : first.problems ≠ [] := by
        have both := (List.mem_filter.mp contributes).2
        simp at both
        exact both.2
      rw [(merged?_eq_some merged).2, shape, List.flatMap_cons]
      exact List.append_ne_nil_of_left_ne_nil filled _

/-- An addition with problems has an entry. -/
theorem exists_entry_of_mem (scanned : Nat) {addition : Entry} (member : addition ∈ additions)
    (filled : addition.problems ≠ []) :
    ∃ entry ∈ (addAll { scanned } additions).entries,
      Path.components entry.path = Path.components addition.path := by
  have contributes : addition ∈ contributions addition.path additions := by
    apply List.mem_filter.mpr
    simp [member, filled, Path.same_iff_key]
  obtain ⟨first, others, shape⟩ := List.exists_cons_of_ne_nil (List.ne_nil_of_mem contributes)
  have found : entryOf? (addAll { scanned } additions).entries addition.path =
      some { first with problems := first.problems ++ others.flatMap Entry.problems } := by
    rw [entryOf?_addAll_empty, shape]
    rfl
  refine ⟨_, List.mem_of_find?_eq_some found, ?_⟩
  exact (Path.same_iff.mp (Path.same_iff_key.mpr (key_path_of_entryOf? found))).symm

/-- A run of additions to an empty report keeps every part of the collection. -/
theorem collects_addAll (scanned : Nat) (additions : List Entry) :
    Collects additions (addAll { scanned } additions) where
  ordered := by
    apply List.Pairwise.imp _ ((ordered_empty scanned).addAll additions)
    intro first second order
    refine ⟨?_, Path.before_iff.mp order⟩
    rw [Ne, ← Path.same_iff, Path.not_same_of_before order]
    exact Bool.false_ne_true
  complete := fun _ => exists_entry_of_mem scanned
  path_eq := by
    intro entry member
    rw [← List.head?_filter, ← contributions_eq]
    exact (merged?_eq_some (merged?_of_mem member)).1
  problems_eq := by
    intro entry member
    rw [← flatMap_contributions]
    exact (merged?_eq_some (merged?_of_mem member)).2
  nonempty := fun _ => problems_ne_nil_of_mem
  count := by
    rw [problemCount_addAll]
    exact Nat.zero_add _

end Empty

section Views

variable {report : Report}

/-- A report has problems if it has entries. -/
theorem hasProblems_iff (nonempty : ∀ entry ∈ report.entries, entry.problems ≠ []) :
    report.hasProblems = true ↔ report.entries ≠ [] := by
  cases entries : report.entries with
  | nil => simp [hasProblems, entries]
  | cons entry others =>
      have filled := nonempty entry (by simp [entries])
      simp [hasProblems, entries, filled]

/-- The number of problems is positive if there are entries. -/
theorem problemCount_pos_iff (nonempty : ∀ entry ∈ report.entries, entry.problems ≠ []) :
    0 < report.problemCount ↔ report.entries ≠ [] := by
  rw [problemCount, List.length_pos_iff]
  cases entries : report.entries with
  | nil => simp
  | cons entry others =>
      have filled := nonempty entry (by simp [entries])
      simp [filled]

/-- The lines of a file with problems end with at least two line feeds. -/
theorem two_le_count_listing (palette : Listing.Palette) {entry : Entry}
    (filled : entry.problems ≠ []) : 2 ≤ (entry.listing palette).count '\n' := by
  obtain ⟨problem, others, shape⟩ := List.exists_cons_of_ne_nil filled
  have pathFeed : 0 < (Listing.pathLine palette entry.path).count '\n' :=
    List.count_pos_iff.mpr (List.mem_append_right _ List.mem_cons_self)
  have problemFeed : 0 < (Listing.problemLine palette problem).count '\n' :=
    List.count_pos_iff.mpr (List.mem_append_right _ List.mem_cons_self)
  rw [Entry.listing, shape, List.flatMap_cons, List.count_append, List.count_append]
  omega

/-- The listing is the sentence for clean reports if and only if there is no problem. -/
theorem listing_eq_sentence_iff (palette : Listing.Palette) :
    report.listing palette = "No problems found.\n".toList ↔ report.hasProblems = false := by
  rw [listing]
  cases verdict : report.hasProblems with
  | false => simp
  | true =>
      obtain ⟨entry, member, filled⟩ := List.any_eq_true.mp verdict
      have inside : (entry.listing palette).Sublist
          (report.entries.flatMap (Entry.listing palette)) := by
        rw [List.flatMap_def]
        exact List.sublist_flatten_of_mem (List.mem_map_of_mem member)
      have feeds := inside.count_le '\n'
      have nonempty : entry.problems ≠ [] := by simpa using filled
      have two := two_le_count_listing palette nonempty
      simp only [if_true, Bool.true_eq_false, iff_false]
      intro sentence
      rw [sentence] at feeds
      have one : "No problems found.\n".toList.count '\n' = 1 := by decide
      omega

theorem summaryCount?_files (report : Report) :
    summaryCount? "files_with_problems".toList report.document = some report.entries.length := rfl

theorem summaryCount?_problems (report : Report) :
    summaryCount? "problem_count".toList report.document = some report.problemCount := rfl

theorem listedFiles_document (report : Report) :
    listedFiles report.document = report.entries.map Entry.document := rfl

/-- The document lists all problems that are counted. -/
theorem length_listedProblems (report : Report) :
    (listedProblems report.document).length = report.problemCount := by
  have ofEntry (entry : Entry) :
      entry.document.itemsOf "problems".toList = entry.problems.map Problem.document := rfl
  rw [listedProblems, listedFiles_document, List.flatMap_map, funext ofEntry, ← List.map_flatMap,
    List.length_map, problemCount]

end Views

/-- After any additions to an empty report, its verdict, its count, its listing and its
machine-readable form tell the same about its problems. -/
theorem views_agree (scanned : Nat) (additions : List Entry) :
    let report := addAll { scanned } additions
    let document := report.document
    report.scanned = scanned ∧ Collects additions report ∧
      (report.hasProblems = true ↔ 0 < report.problemCount) ∧
      (0 < report.problemCount ↔ report.entries ≠ []) ∧
      (∀ color, report.write .text color = "No problems found.\n".toList ↔
        summaryCount? "problem_count".toList document = some 0 ∧
          summaryCount? "files_with_problems".toList document = some 0) ∧
      (∀ color, report.write .json color = document.write) ∧
      summaryCount? "files_with_problems".toList document = some (listedFiles document).length ∧
      summaryCount? "problem_count".toList document = some (listedProblems document).length := by
  intro report document
  have collects : Collects additions report := collects_addAll scanned additions
  have verdict := hasProblems_iff collects.nonempty
  have counted := problemCount_pos_iff collects.nonempty
  refine ⟨scanned_addAll additions _, collects, verdict.trans counted.symm, counted, ?_,
    fun _ => rfl, ?_, ?_⟩
  · intro color
    rw [Report.write, listing_eq_sentence_iff, summaryCount?_problems, summaryCount?_files,
      Option.some_inj, Option.some_inj, List.length_eq_zero_iff, ← Bool.not_eq_true, verdict]
    constructor
    · intro clean
      have none : report.entries = [] := Classical.not_not.mp clean
      exact ⟨Nat.eq_zero_of_not_pos fun positive => clean (counted.mp positive), none⟩
    · rintro ⟨-, none⟩ some
      exact some none
  · rw [summaryCount?_files, listedFiles_document, List.length_map]
  · rw [summaryCount?_problems, length_listedProblems]

/-- Two spellings of a path share an entry, which comes first since a separator ends a component. -/
example :
    let problem : Problem := { kind := .longLine, line := 1, detail := [] }
    let report := addAll {} [⟨"a-b".toList, [problem]⟩, ⟨"a//b".toList, [problem]⟩,
      ⟨"a/./b".toList, [problem]⟩]
    report.entries.map (fun entry => (entry.path, entry.problems.length)) =
      [("a//b".toList, 2), ("a-b".toList, 1)] := by
  decide

end Report

end HouseStyle
