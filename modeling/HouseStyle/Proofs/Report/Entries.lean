/-
This file proves what a report holds after some additions. Each path has at most one entry, which
depends on the additions for this path only.
-/

import Mathlib.Algebra.GroupWithZero.Nat
import HouseStyle.Proofs.Path.Order
import HouseStyle.Report.Basic

namespace HouseStyle.Report

/-- The entries are in the order of their paths, so no two of them have the same path. -/
def Ordered (entries : List Entry) : Prop :=
  entries.Pairwise fun first second => Path.before first.path second.path = true

/-- The entry of a path. -/
def entryOf? (entries : List Entry) (path : Path) : Option Entry :=
  entries.find? fun entry => Path.same path entry.path

/-- One entry for several additions. It has the path of the first one and the problems of all. -/
def merged? : List Entry → Option Entry
  | [] => none
  | first :: others =>
      some { first with problems := first.problems ++ others.flatMap Entry.problems }

/-- The additions for a path that have problems. -/
def contributions (path : Path) (additions : List Entry) : List Entry :=
  additions.filter fun addition => Path.same path addition.path && !addition.problems.isEmpty

/-- This function adds the problems of several files, one file after the other. -/
def addAll (report : Report) (additions : List Entry) : Report :=
  additions.foldl (fun report addition => report.add addition.path addition.problems) report

theorem contributions_append (path : Path) (first second : List Entry) :
    contributions path (first ++ second) =
      contributions path first ++ contributions path second :=
  List.filter_append ..

/-- Entries may be merged one after the other. -/
theorem merged?_append (first second : List Entry) :
    merged? ((merged? first).toList ++ second) = merged? (first ++ second) := by
  cases first with
  | nil => rfl
  | cons entry first => simp [merged?, List.append_assoc]

theorem merged?_toList (entry : Option Entry) : merged? entry.toList = entry := by
  cases entry <;> simp [merged?]

section Insertion

variable {path : Path} {problems : List Problem} {entries : List Entry}

/-- Insertion changes no path of an entry and adds one path at most. -/
theorem mem_insertEntry {entry : Entry} (member : entry ∈ insertEntry path problems entries) :
    Path.key entry.path = Path.key path ∨ ∃ old ∈ entries, old.path = entry.path := by
  induction entries with
  | nil =>
      have new : entry = ⟨path, problems⟩ := by simpa [insertEntry] using member
      exact Or.inl (by rw [new])
  | cons head entries inductionHypothesis =>
      rw [insertEntry] at member
      split at member
      next =>
        rcases List.mem_cons.mp member with rfl | later
        · exact Or.inr ⟨head, List.mem_cons_self, rfl⟩
        · exact Or.inr ⟨entry, List.mem_cons_of_mem _ later, rfl⟩
      next =>
        split at member
        next =>
          rcases List.mem_cons.mp member with rfl | later
          · exact Or.inl rfl
          · exact Or.inr ⟨entry, later, rfl⟩
        next =>
          rcases List.mem_cons.mp member with rfl | later
          · exact Or.inr ⟨entry, List.mem_cons_self, rfl⟩
          · rcases inductionHypothesis later with new | ⟨old, inRest, samePath⟩
            · exact Or.inl new
            · exact Or.inr ⟨old, List.mem_cons_of_mem _ inRest, samePath⟩

/-- An insertion keeps the order of the entries. -/
theorem Ordered.insertEntry (ordered : Ordered entries) :
    Ordered (insertEntry path problems entries) := by
  induction entries with
  | nil => exact List.pairwise_singleton _ _
  | cons head entries inductionHypothesis =>
      obtain ⟨first, rest⟩ := List.pairwise_cons.mp ordered
      rw [Report.insertEntry]
      split
      next => exact List.pairwise_cons.mpr ⟨first, rest⟩
      next different =>
        split
        next order =>
          refine List.pairwise_cons.mpr ⟨?_, ordered⟩
          intro entry member
          rcases List.mem_cons.mp member with rfl | later
          · exact order
          · exact Path.before_trans order (first entry later)
        next notBefore =>
          refine List.pairwise_cons.mpr ⟨?_, inductionHypothesis rest⟩
          intro entry member
          rcases mem_insertEntry member with new | ⟨old, inRest, samePath⟩
          · rw [Path.before_iff_key, new, ← Path.before_iff_key]
            exact Path.before_of_not different notBefore
          · rw [← samePath]
            exact first old inRest

/-- Paths in front of the first entry have no entry. -/
theorem entryOf?_eq_none_of_before {head : Entry} (ordered : Ordered (head :: entries))
    (order : Path.before path head.path = true) : entryOf? (head :: entries) path = none := by
  refine List.find?_eq_none.mpr fun entry member => ?_
  rw [Bool.not_eq_true]
  apply Path.not_same_of_before
  rcases List.mem_cons.mp member with rfl | later
  · exact order
  · exact Path.before_trans order ((List.pairwise_cons.mp ordered).1 entry later)

/-- An insertion changes the entry of its own path only. -/
theorem entryOf?_insertEntry (ordered : Ordered entries) (other : Path) :
    entryOf? (insertEntry path problems entries) other =
      if Path.same other path then merged? ((entryOf? entries other).toList ++ [⟨path, problems⟩])
      else entryOf? entries other := by
  induction entries with
  | nil =>
      rw [insertEntry, entryOf?, List.find?_cons]
      cases Path.same other path <;> simp [entryOf?, merged?]
  | cons head entries inductionHypothesis =>
      have later := inductionHypothesis (List.pairwise_cons.mp ordered).2
      rw [insertEntry]
      split
      next here =>
        -- The other path is the path of the head if and only if it is the inserted path.
        have equal : Path.same other path = Path.same other head.path := by
          rw [Path.same, Path.same, Path.same_iff_key.mp here]
        rw [entryOf?, entryOf?, List.find?_cons, List.find?_cons, equal]
        cases Path.same other head.path <;> simp [merged?]
      next different =>
        split
        next order =>
          rw [entryOf?, List.find?_cons]
          cases inserted : Path.same other path with
          | false => simp [entryOf?]
          | true =>
              have before : Path.before other head.path = true := by
                rw [Path.before_iff_key, Path.same_iff_key.mp inserted]
                exact Path.before_iff_key.mp order
              rw [entryOf?_eq_none_of_before ordered before]
              simp [merged?]
        next =>
          simp only [entryOf?, List.find?_cons] at later ⊢
          cases atHead : Path.same other head.path with
          | false => exact later
          | true =>
              have notInserted : Path.same other path = false := by
                apply Bool.eq_false_iff.mpr
                intro inserted
                apply different
                rw [Path.same_iff_key, ← Path.same_iff_key.mp inserted]
                exact Path.same_iff_key.mp atHead
              simp [notInserted]

/-- Insertion adds the problems and drops none. -/
theorem problems_insertEntry :
    ((insertEntry path problems entries).flatMap Entry.problems).length =
      (entries.flatMap Entry.problems).length + problems.length := by
  induction entries with
  | nil => simp [insertEntry]
  | cons head entries inductionHypothesis =>
      rw [insertEntry]
      split
      next => simp only [List.flatMap_cons, List.length_append]; omega
      next =>
        split
        next => simp only [List.flatMap_cons, List.length_append]; omega
        next =>
          simp only [List.flatMap_cons, List.length_append, inductionHypothesis]
          omega

end Insertion

section Ordered

variable {entries : List Entry}

/-- Every entry is the entry of its path. -/
theorem Ordered.entryOf?_eq_some_iff (ordered : Ordered entries) {entry : Entry} :
    entryOf? entries entry.path = some entry ↔ entry ∈ entries := by
  constructor
  · exact List.mem_of_find?_eq_some
  · intro member
    induction entries with
    | nil => simp at member
    | cons head entries inductionHypothesis =>
        obtain ⟨first, rest⟩ := List.pairwise_cons.mp ordered
        rw [entryOf?, List.find?_cons]
        rcases List.mem_cons.mp member with rfl | later
        · rw [Path.same_iff_key.mpr rfl]
        · have different : Path.same entry.path head.path = false := by
            apply Bool.eq_false_iff.mpr
            intro equal
            have order := first entry later
            rw [Path.before_iff_key, Path.same_iff_key.mp equal, ← Path.before_iff_key] at order
            exact Path.not_before_self _ order
          rw [different]
          exact inductionHypothesis rest later

theorem key_path_of_entryOf? {path : Path} {entry : Entry} (found : entryOf? entries path = some entry) :
    Path.key path = Path.key entry.path :=
  Path.same_iff_key.mp (List.find?_some (p := fun entry : Entry => Path.same path entry.path) found)

/-- Entries in order are distinct. -/
theorem Ordered.nodup (ordered : Ordered entries) : entries.Nodup := by
  apply ordered.imp
  intro first second order equal
  rw [equal] at order
  exact Path.not_before_self _ order

/-- The entries are determined by the entry of each path. -/
theorem Ordered.eq_of_entryOf? {others : List Entry} (ordered : Ordered entries)
    (othersOrdered : Ordered others) (equal : ∀ path, entryOf? entries path = entryOf? others path) :
    entries = others := by
  have sameMembers : List.Perm entries others := by
    apply (List.perm_ext_iff_of_nodup ordered.nodup othersOrdered.nodup).mpr
    intro entry
    rw [← ordered.entryOf?_eq_some_iff, ← othersOrdered.entryOf?_eq_some_iff, equal]
  apply sameMembers.eq_of_pairwise _ ordered othersOrdered
  intro first second _ _ lower upper
  exact absurd (Path.before_trans lower upper) (Path.not_before_self _)

end Ordered

section Addition

variable {report : Report}

/-- Added problems keep the entries in order. -/
theorem Ordered.add (ordered : Ordered report.entries) (path : Path) (problems : List Problem) :
    Ordered (report.add path problems).entries := by
  rw [Report.add]
  split
  next => exact ordered
  next => exact ordered.insertEntry

/-- An addition changes the entry of its own path only, and only if it has problems. -/
theorem entryOf?_add (ordered : Ordered report.entries) (addition : Entry) (path : Path) :
    entryOf? (report.add addition.path addition.problems).entries path =
      merged? ((entryOf? report.entries path).toList ++ contributions path [addition]) := by
  rw [Report.add]
  cases empty : addition.problems.isEmpty with
  | true => simp [contributions, empty, merged?_toList]
  | false =>
      simp only [Bool.false_eq_true, if_false, entryOf?_insertEntry ordered]
      cases own : Path.same path addition.path <;>
        simp [contributions, own, empty, merged?_toList]

/-- Added problems are counted. -/
theorem problemCount_add (report : Report) (path : Path) (problems : List Problem) :
    (report.add path problems).problemCount = report.problemCount + problems.length := by
  rw [Report.add]
  split
  next empty => rw [List.isEmpty_iff.mp empty, List.length_nil, Nat.add_zero]
  next => exact problems_insertEntry

variable (additions : List Entry)

/-- A run of additions keeps the entries in order. The induction is on the additions. -/
theorem Ordered.addAll (ordered : Ordered report.entries) :
    Ordered (addAll report additions).entries := by
  induction additions generalizing report with
  | nil => exact ordered
  | cons addition additions inductionHypothesis =>
      exact inductionHypothesis (ordered.add addition.path addition.problems)

/-- After some additions, the entry of a path consists of the old entry and the additions for this
path. -/
theorem entryOf?_addAll (ordered : Ordered report.entries) (path : Path) :
    entryOf? (addAll report additions).entries path =
      merged? ((entryOf? report.entries path).toList ++ contributions path additions) := by
  induction additions generalizing report with
  | nil => simp [addAll, contributions, merged?_toList]
  | cons addition additions inductionHypothesis =>
      have later := inductionHypothesis (ordered.add addition.path addition.problems)
      rw [entryOf?_add ordered, merged?_append, List.append_assoc, ← contributions_append] at later
      exact later

/-- All added problems are counted. -/
theorem problemCount_addAll (report : Report) :
    (addAll report additions).problemCount =
      report.problemCount + (additions.map fun addition => addition.problems.length).sum := by
  induction additions generalizing report with
  | nil => rfl
  | cons addition additions inductionHypothesis =>
      have later := inductionHypothesis (report.add addition.path addition.problems)
      rw [problemCount_add, Nat.add_assoc] at later
      exact later

/-- Additions do not change the number of files. -/
theorem scanned_addAll (report : Report) : (addAll report additions).scanned = report.scanned := by
  induction additions generalizing report with
  | nil => rfl
  | cons addition additions inductionHypothesis =>
      have step : (report.add addition.path addition.problems).scanned = report.scanned := by
        rw [Report.add]
        split <;> rfl
      exact (inductionHypothesis _).trans step

/-- A report is its number of files and its entries. -/
theorem eq_of_fields {first second : Report} (scanned : first.scanned = second.scanned)
    (entries : first.entries = second.entries) : first = second := by
  cases first
  cases second
  cases scanned
  cases entries
  rfl

/-- Additions with the same contributions to each path lead to the same report. -/
theorem addAll_eq_of_contributions {additions others : List Entry} (ordered : Ordered report.entries)
    (equal : ∀ path, contributions path additions = contributions path others) :
    addAll report additions = addAll report others := by
  have entries : (addAll report additions).entries = (addAll report others).entries := by
    apply (ordered.addAll additions).eq_of_entryOf? (ordered.addAll others)
    intro path
    rw [entryOf?_addAll additions ordered, entryOf?_addAll others ordered, equal]
  have scanned : (addAll report additions).scanned = (addAll report others).scanned := by
    rw [scanned_addAll, scanned_addAll]
  exact eq_of_fields scanned entries

end Addition

end HouseStyle.Report
