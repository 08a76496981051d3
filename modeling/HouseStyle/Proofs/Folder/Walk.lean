/-
This file proves that a stored file has no effect on the other files that a folder lists, and that it
is not noticed by the search for files that are checked if it is neither selected nor an ignore file.
-/

import HouseStyle.Folder.Scan
import HouseStyle.Proofs.Folder.User

namespace HouseStyle

/-- A walk lists the files of a folder. It carries a state into the folders inside, and the state
tells which items are skipped. -/
structure Walk (State : Type) where
  skips : State → Bool → Text → Bool
  enter : Text → Folder → State → State

theorem Folder.get?_singleton (name : Text) (here : Folder) : here.get? [name] = here.find? name := by
  rw [get?_cons]
  cases here.find? name with
  | none => rfl
  | some item => cases item <;> rfl

namespace Walk

variable {State : Type} {walk : Walk State} {state : State}

def files (walk : Walk State) (state : State) : Folder → List (List Text × Content)
  | .empty => []
  | .file name content others =>
      (if walk.skips state false name then [] else [([name], content)]) ++ walk.files state others
  | .folder name items others =>
      (if walk.skips state true name then []
        else
          (walk.files (walk.enter name items state) items).map
            fun (names, content) => (name :: names, content)) ++
        walk.files state others

/-- The files that a walk lists for one item. -/
def itemFiles (walk : Walk State) (state : State) (name : Text) (item : Item) :
    List (List Text × Content) :=
  walk.files state (Folder.withItem name .empty item)

/-- A walk that lists all files. -/
def everything : Walk Unit where
  skips _ _ _ := false
  enter _ _ state := state

/-- A walk that skips the items that ignore files name. -/
def unignored : Walk IgnoreState where
  skips := IgnoreState.ignores
  enter := IgnoreState.enter

/-- The walk that skips nothing lists all files. -/
theorem files_everything (here : Folder) : everything.files () here = here.files := by
  induction here with
  | empty => rfl
  | file name content others inductionHypothesis =>
      rw [files, Folder.files, inductionHypothesis]
      rfl
  | folder name items others insideHypothesis inductionHypothesis =>
      rw [files, Folder.files, inductionHypothesis, ← insideHypothesis]
      rfl

/-- The walk that skips ignored items lists the files that are not ignored. -/
theorem files_unignored (state : IgnoreState) (here : Folder) :
    unignored.files state here = here.keptFiles state := by
  induction here generalizing state with
  | empty => rfl
  | file name content others inductionHypothesis =>
      rw [files, Folder.keptFiles, inductionHypothesis]
      rfl
  | folder name items others insideHypothesis inductionHypothesis =>
      rw [files, Folder.keptFiles, inductionHypothesis, insideHypothesis]
      rfl

/-- The walk lists the files of the first item and then those of the others. -/
theorem files_withItem (walk : Walk State) (state : State) (name : Text) (others : Folder)
    (item : Item) :
    walk.files state (Folder.withItem name others item) =
      walk.itemFiles state name item ++ walk.files state others := by
  cases item <;> simp [itemFiles, Folder.withItem, files]

/-- A filter does not notice a change of an item if it does not notice it in the files of the item. -/
theorem filter_files_change {keep : List Text × Content → Bool} {update : Option Item → Item}
    {name : Text} {here : Folder}
    (same : (walk.itemFiles state name (update (here.find? name))).filter keep =
      ((here.find? name).toList.flatMap (walk.itemFiles state name)).filter keep) :
    (walk.files state (here.change update name)).filter keep =
      (walk.files state here).filter keep := by
  induction here using Folder.item_induction with
  | empty => exact same
  | item first item others inductionHypothesis =>
      by_cases equal : first = name
      · subst equal
        rw [Folder.find?_withItem, Option.toList_some, List.flatMap_singleton] at same
        rw [Folder.change_withItem, files_withItem, files_withItem, List.filter_append,
          List.filter_append, same]
      · rw [Folder.find?_withItem_of_ne (Ne.symm equal)] at same
        rw [Folder.change_withItem_of_ne equal, files_withItem, files_withItem, List.filter_append,
          List.filter_append, inductionHypothesis same]

theorem itemFiles_file (walk : Walk State) (state : State) (name : Text) (content : Content) :
    walk.itemFiles state name (.file content) =
      if walk.skips state false name then [] else [([name], content)] := by
  simp [itemFiles, Folder.withItem, files]

/-- The files inside a folder are listed with its name in front, unless the walk skips it. -/
theorem itemFiles_folder (walk : Walk State) (state : State) (name : Text) (items : Folder) :
    walk.itemFiles state name (.folder items) =
      if walk.skips state true name then []
      else
        (walk.files (walk.enter name items state) items).map
          fun (names, content) => (name :: names, content) := by
  simp [itemFiles, Folder.withItem, files]

/-- The state does not depend on the file at the end of the names. -/
def Overlooks (walk : Walk State) (names : List Text) : Prop :=
  ∀ rest, rest <:+ names → ∀ (name : Text) (items : Folder) (content : Content) (state : State),
    items.Receives rest →
      walk.enter name (items.put (.file content) rest) state = walk.enter name items state

/-- A filter that drops the file at the end of the names does not notice it. -/
theorem filter_files_put {names : List Text} {here : Folder} (receives : here.Receives names)
    (content : Content) {keep : List Text × Content → Bool}
    (dropped : ∀ content, keep (names, content) = false) (overlooks : walk.Overlooks names)
    (state : State) :
    (walk.files state (here.put (.file content) names)).filter keep =
      (walk.files state here).filter keep := by
  induction receives generalizing state keep with
  | @last name here free =>
      -- Before and after there is at most a file with the name, and the filter drops it.
      have nothing (content : Content) :
          (walk.itemFiles state name (.file content)).filter keep = [] := by
        rw [itemFiles_file]
        split
        next => rfl
        next => simp [dropped]
      refine filter_files_change ?_
      rw [nothing]
      cases found : here.find? name with
      | none => rfl
      | some item =>
          cases item with
          | file old => simp [nothing]
          | folder inside => exact absurd found (free inside)
  | @inside name names here items found receives inductionHypothesis =>
      rw [Folder.put_cons _ _ receives.ne_nil]
      refine filter_files_change ?_
      have entered := overlooks names (List.suffix_cons name names) name items content state receives
      have later : walk.Overlooks names := fun rest suffix =>
        overlooks rest (suffix.trans (List.suffix_cons name names))
      rw [found, Option.toList_some, List.flatMap_singleton, itemFiles_folder, itemFiles_folder]
      split
      next => rfl
      next =>
        rw [Folder.inside, entered, List.filter_map, List.filter_map,
          inductionHypothesis (fun content => dropped content) later]

theorem overlooks_everything (names : List Text) : everything.Overlooks names :=
  fun _ _ _ _ _ _ _ => rfl

end Walk

/-- The ends of the names that lead to ignore files. -/
def IgnoreLevel.fileNames : List (List Text) :=
  [[".ignore".toList], [".gitignore".toList],
    [".git".toList, "info".toList, "exclude".toList]]

/-- A file that is no ignore file does not change the rules of a folder. -/
theorem IgnoreLevel.ofFolder_put {names : List Text} {here : Folder}
    (receives : here.Receives names) (content : Content) (plain : names ∉ fileNames) :
    ofFolder (here.put (.file content) names) = ofFolder here := by
  have same (ending : List Text) (member : ending ∈ fileNames) :
      IgnoreRule.ofItem ((here.put (.file content) names).get? ending) =
        IgnoreRule.ofItem (here.get? ending) :=
    IgnoreRule.ofItem_congr (receives.content?_put_of_ne content fun equal =>
      plain (equal ▸ member))
  have general := same [".ignore".toList] (by simp [fileNames])
  have shared := same [".gitignore".toList] (by simp [fileNames])
  have own := same [".git".toList, "info".toList, "exclude".toList] (by simp [fileNames])
  rw [Folder.get?_singleton, Folder.get?_singleton] at general shared
  rw [ofFolder, ofFolder, general, shared, own]

/-- The walk does not notice a file whose names end with those of no ignore file. -/
theorem Walk.overlooks_unignored {names : List Text}
    (plain : ∀ ending ∈ IgnoreLevel.fileNames, ¬ ending <:+ names) :
    unignored.Overlooks names := by
  intro rest suffix name items content state receives
  have same := IgnoreLevel.ofFolder_put receives content fun member => plain rest member suffix
  simp only [unignored, IgnoreState.enter, same]

namespace Folder

variable {names : List Text} {here : Folder} {selection : Selection}

/-- A file that is not selected does not change what is selected. If ignore files count, it has to be
none of them. -/
theorem select_put (receives : here.Receives names) (content : Content) (user : Option UserRules)
    (plain : user.isSome → ∀ ending ∈ IgnoreLevel.fileNames, ¬ ending <:+ names)
    {root : Path} (refused : selection.accepts (Path.join root (List.intercalate ['/'] names)) = false) :
    (here.put (.file content) names).select selection user root =
      here.select selection user root := by
  have dropped (content : Content) : ((fun file : FoundFile => selection.accepts file.path) ∘
      FoundFile.ofNames root) (names, content) = false := refused
  cases user with
  | none =>
      have listed := Walk.filter_files_put receives content dropped
        (Walk.overlooks_everything names) ()
      rw [Walk.files_everything, Walk.files_everything] at listed
      simp only [select, List.filter_map, listed]
  | some user =>
      have noIgnoreFile := plain rfl
      have level := IgnoreLevel.ofFolder_put receives content fun member =>
        noIgnoreFile names member (List.suffix_refl names)
      have listed := Walk.filter_files_put receives content dropped
        (Walk.overlooks_unignored noIgnoreFile) { levels := [.ofFolder here], path := root, user }
      rw [Walk.files_unignored, Walk.files_unignored] at listed
      simp only [select, unignoredFiles, level, List.filter_map, listed]

end Folder

namespace Workspace

variable {workspace : Workspace} {names : List Text} {selection : Selection} {root : Path}

/-- The search needs a folder. -/
theorem scan_of_no_folder (noFolder : ∀ here, workspace.find? root ≠ some (.folder here))
    (selection : Selection) (useIgnoreFiles : Bool) :
    workspace.scan selection useIgnoreFiles root = .error (.missingRoot root) := by
  rw [scan]
  split
  next here found => exact absurd found (noFolder here)
  next => rfl

/-- A stored file is not found if it is not selected in any folder. If ignore files count, it has to be
none of them and none of the files that lead to the one of the user. -/
theorem scan_store (receives : workspace.top.Receives names) (text : Text) (useIgnoreFiles : Bool)
    (plain : useIgnoreFiles = true → ∀ ending ∈ IgnoreLevel.fileNames, ¬ ending <:+ names)
    (apart : useIgnoreFiles = true → ∀ path ∈ workspace.userFiles, workspace.locate path ≠ .ok names)
    (refused : ∀ folder rest, names = folder ++ rest → rest ≠ [] →
      selection.accepts (Path.join root (List.intercalate ['/'] rest)) = false) :
    (workspace.store names text).scan selection useIgnoreFiles root =
      workspace.scan selection useIgnoreFiles root := by
  by_cases isFolder : ∃ here, workspace.find? root = some (.folder here)
  · obtain ⟨here, found⟩ := isFolder
    obtain ⟨changed, later, shape⟩ := find?_store_of_folder receives text found
    have user : (if useIgnoreFiles then some (workspace.store names text).userRules else none) =
        if useIgnoreFiles then some workspace.userRules else none := by
      cases useIgnoreFiles with
      | false => rfl
      | true => exact congrArg some (userRules_store receives text (apart rfl))
    rw [scan, scan, later, found]
    simp only [user]
    refine congrArg Except.ok ?_
    rcases shape with rfl | ⟨folder, rest, rfl, restReceives, rfl⟩
    · rfl
    · refine Folder.select_put restReceives _ _ (fun counts ending member suffix => ?_)
        (refused folder rest rfl restReceives.ne_nil)
      have counts : useIgnoreFiles = true := by simpa using counts
      exact plain counts ending member (suffix.trans (List.suffix_append folder rest))
  · have noFolder (here : Folder) : workspace.find? root ≠ some (.folder here) :=
      fun found => isFolder ⟨here, found⟩
    have noLater (here : Folder) :
        (workspace.store names text).find? root ≠ some (.folder here) :=
      fun found => isFolder ((exists_folder_store_iff receives text).mp ⟨here, found⟩)
    rw [scan_of_no_folder noFolder, scan_of_no_folder noLater]

end Workspace

end HouseStyle
