/-
This file proves that the search for files that are checked finds every selected file once, in the
order of the components of their paths, and that ignore files only take files away.
-/

import Mathlib.Data.List.Sort
import HouseStyle.Proofs.Folder.Files
import HouseStyle.Proofs.Path.Order

namespace HouseStyle

namespace FoundFile

/-- Files are ordered by the components of their paths. -/
def Precedes (first second : FoundFile) : Prop :=
  List.Lex Path.Component.Precedes (Path.components first.path) (Path.components second.path)

/-- A file comes first if its path does. -/
theorem precedes_iff {first second : FoundFile} :
    Precedes first second ↔ Path.before first.path second.path = true :=
  Path.before_iff.symm

instance : Std.Irrefl Precedes where
  irrefl file precedes := Path.not_before_self file.path (precedes_iff.mp precedes)

instance : Std.Antisymm Precedes where
  antisymm first _ lower upper := absurd
    (Path.before_trans (precedes_iff.mp lower) (precedes_iff.mp upper))
    (Path.not_before_self first.path)

/-- Two files are in order if the path of the second one does not come first. -/
theorem inOrder_iff {first second : FoundFile} :
    inOrder first second = true ↔ ¬ Path.key second.path < Path.key first.path := by
  rw [inOrder, Bool.not_eq_true', Bool.eq_false_iff, Ne, Path.before_iff_key]

/-- Sorted files are in order. -/
theorem pairwise_inOrder (found : List FoundFile) :
    (found.mergeSort inOrder).Pairwise fun first second => inOrder first second = true := by
  refine List.pairwise_mergeSort ?_ ?_ found
  · intro first second third lower upper
    rw [inOrder_iff, Std.not_lt] at *
    exact Std.le_trans lower upper
  · intro first second
    rw [Bool.or_eq_true, inOrder_iff, inOrder_iff, Std.not_lt, Std.not_lt]
    exact Std.le_total

/-- Files on different paths are sorted strictly. -/
theorem pairwise_precedes {found : List FoundFile}
    (different : found.Pairwise fun first second =>
      Path.components first.path ≠ Path.components second.path) :
    (found.mergeSort inOrder).Pairwise Precedes := by
  have sortedDifferent := (List.mergeSort_perm found inOrder).symm.pairwise different Ne.symm
  refine (sortedDifferent.and (pairwise_inOrder found)).imp fun {first second} both => ?_
  have notSame : Path.same second.path first.path ≠ true :=
    fun same => both.1 (Path.same_iff.mp same).symm
  have notBefore : Path.before second.path first.path ≠ true := by
    simpa [inOrder] using both.2
  exact precedes_iff.mpr (Path.before_of_not notSame notBefore)

end FoundFile

namespace Folder

variable {here there : Folder} {selection : Selection} {root : Path}

/-- Different files of a proper folder are on different paths. -/
theorem pairwise_components (proper : here.IsProper) (rooted : root ≠ [])
    {listed : List (List Text × Content)} (part : listed.Sublist here.files) :
    (listed.map (FoundFile.ofNames root)).Pairwise fun first second =>
      Path.components first.path ≠ Path.components second.path := by
  have different : listed.Pairwise fun first second => first.1 ≠ second.1 :=
    List.pairwise_map.mp ((nodup_files proper).sublist (part.map Prod.fst))
  refine List.pairwise_map.mpr (different.imp_of_mem ?_)
  intro first second firstListed secondListed different same
  have firstFound := (mem_files_iff proper).mp (part.subset firstListed)
  have secondFound := (mem_files_iff proper).mp (part.subset secondListed)
  exact different (Path.names_of_components_join rooted (ne_nil_of_get?_eq_file firstFound)
    (proper.of_get? firstFound).1 (ne_nil_of_get?_eq_file secondFound)
    (proper.of_get? secondFound).1 same)

/-- The files of a proper folder have distinct paths, so the order of those that are selected is
strict. -/
theorem pairwise_select (proper : here.IsProper) (rooted : root ≠ []) (user : Option UserRules) :
    (here.select selection user root).Pairwise FoundFile.Precedes := by
  refine FoundFile.pairwise_precedes (List.Pairwise.filter _ (pairwise_components proper rooted ?_))
  cases user with
  | none => exact List.Sublist.refl _
  | some user => exact unignoredFiles_sublist user root here

/-- The search finds the files with selected paths. -/
theorem mem_select_iff (proper : here.IsProper) {file : FoundFile} :
    file ∈ here.select selection none root ↔
      ∃ names, here.get? names = some (.file file.content) ∧
        file.path = Path.join root (List.intercalate ['/'] names) ∧
        selection.accepts file.path = true := by
  rw [select, List.mem_mergeSort, List.mem_filter, List.mem_map]
  constructor
  · rintro ⟨⟨⟨names, content⟩, listed, rfl⟩, accepted⟩
    exact ⟨names, (mem_files_iff proper).mp listed, rfl, accepted⟩
  · rintro ⟨names, found, located, accepted⟩
    obtain ⟨path, content⟩ := file
    obtain rfl : path = _ := located
    exact ⟨⟨(names, content), (mem_files_iff proper).mpr found, rfl⟩, accepted⟩

/-- The order of the items in a folder has no effect on what is found. -/
theorem select_congr (proper : here.IsProper) (otherProper : there.IsProper) (rooted : root ≠ [])
    (same : here.SameFiles there) :
    there.select selection none root = here.select selection none root := by
  refine (pairwise_select otherProper rooted none).eq_of_mem_iff
    (pairwise_select proper rooted none) fun file => ?_
  rw [mem_select_iff otherProper, mem_select_iff proper]
  exact exists_congr fun names => and_congr_left fun _ => (same names file.content).symm

/-- Ignore files only take files away. -/
theorem select_sublist (proper : here.IsProper) (rooted : root ≠ []) (user : UserRules) :
    (here.select selection (some user) root).Sublist (here.select selection none root) := by
  have fewer : (((here.unignoredFiles user root).map (FoundFile.ofNames root)).filter
      fun file => selection.accepts file.path).Sublist
        ((here.files.map (FoundFile.ofNames root)).filter
          fun file => selection.accepts file.path) :=
    ((unignoredFiles_sublist user root here).map _).filter _
  refine List.sublist_of_subperm_of_pairwise ?_ (pairwise_select proper rooted (some user))
    (pairwise_select proper rooted none)
  exact (List.mergeSort_perm _ _).subperm.trans
    (fewer.subperm.trans (List.mergeSort_perm _ _).symm.subperm)

end Folder

namespace Workspace

variable {workspace : Workspace} {root : Path} {here : Folder}

/-- The empty path leads nowhere. -/
theorem ne_nil_of_find? {item : Item} (found : workspace.find? root = some item) : root ≠ [] := by
  rintro rfl
  contradiction

/-- A folder inside a proper one is proper. -/
theorem isProper_of_find? (proper : workspace.top.IsProper)
    (found : workspace.find? root = some (.folder here)) : here.IsProper := by
  obtain ⟨names, -, reached⟩ := find?_eq_some_iff.mp found
  exact (proper.of_get? reached).2

/-- The search below a folder selects files of the folder. -/
theorem scan_of_find? (found : workspace.find? root = some (.folder here))
    (selection : Selection) (useIgnoreFiles : Bool) :
    workspace.scan selection useIgnoreFiles root =
      .ok (here.select selection (if useIgnoreFiles then some workspace.userRules else none)
        root) := by
  rw [scan, found]

/-- Without ignore files a search of a folder finds exactly the selected files below it, each of
them once and in the order of the components of their paths. It finds the same list wherever the
same files are, whatever the order of the items there. With ignore files it finds a part of this
list, in the same order. -/
theorem scan_finds_selected (proper : workspace.top.IsProper)
    (found : workspace.find? root = some (.folder here)) (selection : Selection) :
    ∃ files, workspace.scan selection false root = .ok files ∧
      (∀ file, file ∈ files ↔
        ∃ names, here.get? names = some (.file file.content) ∧
          file.path = Path.join root (List.intercalate ['/'] names) ∧
          selection.accepts file.path = true) ∧
      files.Pairwise FoundFile.Precedes ∧
      (∀ (other : Workspace) (there : Folder), other.top.IsProper →
        other.find? root = some (.folder there) → here.SameFiles there →
          other.scan selection false root = .ok files) ∧
      ∃ kept, workspace.scan selection true root = .ok kept ∧ kept.Sublist files := by
  have rooted := ne_nil_of_find? found
  have hereProper := isProper_of_find? proper found
  refine ⟨_, scan_of_find? found selection false, fun file => Folder.mem_select_iff hereProper,
    Folder.pairwise_select hereProper rooted none, ?_, _, scan_of_find? found selection true,
    Folder.select_sublist hereProper rooted _⟩
  intro other there otherProper otherFound same
  have thereProper := isProper_of_find? otherProper otherFound
  exact (scan_of_find? otherFound selection false).trans
    (congrArg Except.ok (Folder.select_congr hereProper thereProper rooted same))

/-- The folder `a` comes before `a-b`, whose text is smaller, in whatever order they are listed.
Only one of them is left by the ignore file. -/
theorem scan_finds_selected_two_folders :
    let text : Content := .text "void f();\n".toList
    let ignored : Content := .text "a-b\n".toList
    let first : Folder := .file "x.cpp".toList text (.file "notes.txt".toList text .empty)
    let second : Folder := .file "x.cpp".toList text .empty
    let workspace : Workspace :=
      { top := .folder "a-b".toList second
          (.file ".gitignore".toList ignored (.folder "a".toList first .empty))
        working := []
        userFolder := none }
    let other : Workspace :=
      { top := .folder "a".toList first
          (.folder "a-b".toList second (.file ".gitignore".toList ignored .empty))
        working := []
        userFolder := none }
    let selection : Selection := { extensions := ["cpp".toList], excluded := [] }
    workspace.top.IsProper ∧ workspace.find? ".".toList = some (.folder workspace.top) ∧
      ∃ files, workspace.scan selection false ".".toList = .ok files ∧
        files.map FoundFile.path = ["./a/x.cpp".toList, "./a-b/x.cpp".toList] ∧
        files.Pairwise FoundFile.Precedes ∧
        other.scan selection false ".".toList = .ok files ∧
        ∃ kept, workspace.scan selection true ".".toList = .ok kept ∧ kept.Sublist files ∧
          kept.map FoundFile.path = ["./a/x.cpp".toList] := by
  intro text ignored first second workspace other selection
  have proper : workspace.top.IsProper := by decide +kernel
  have found : workspace.find? ".".toList = some (.folder workspace.top) := by decide +kernel
  have otherProper : other.top.IsProper := by decide +kernel
  have otherFound : other.find? ".".toList = some (.folder other.top) := by decide +kernel
  have same : workspace.top.SameFiles other.top :=
    (Folder.sameFiles_iff_perm proper otherProper).mpr (by decide +kernel)
  obtain ⟨files, scanned, -, sorted, independent, kept, keptScanned, part⟩ :=
    scan_finds_selected proper found selection
  have again := independent other _ otherProper otherFound same
  -- The files of the other folder are listed in order, and a sorted list stays as it is.
  let files : List FoundFile := [⟨"./a/x.cpp".toList, text⟩, ⟨"./a-b/x.cpp".toList, text⟩]
  have listed : (other.top.files.map (FoundFile.ofNames ".".toList)).filter
      (fun file => selection.accepts file.path) = files := by decide +kernel
  have inOrder : files.Pairwise fun first second => FoundFile.inOrder first second = true := by
    decide +kernel
  have both : other.scan selection false ".".toList = .ok files := by
    rw [scan_of_find? otherFound, if_neg Bool.false_ne_true]
    simp only [Folder.select, listed, List.mergeSort_of_pairwise inOrder]
  have one : workspace.scan selection true ".".toList = .ok [⟨"./a/x.cpp".toList, text⟩] := by
    decide +kernel
  obtain rfl := Except.ok.inj (again.symm.trans both)
  obtain rfl := Except.ok.inj (keptScanned.symm.trans one)
  exact ⟨proper, found, _, scanned, rfl, sorted, again, _, keptScanned, part, rfl⟩

end Workspace

end HouseStyle
