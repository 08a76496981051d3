/-
This file proves that a stored file leaves all other paths as they are, and that storing it again
changes nothing.
-/

import HouseStyle.Proofs.Folder.Write

namespace HouseStyle

namespace Item

/-- Only a folder has no content. -/
theorem map_content?_eq_some_none_iff {item : Option Item} :
    item.map content? = some none ↔ ∃ inside, item = some (folder inside) := by
  cases item with
  | none => simp
  | some item => cases item <;> simp [content?]

/-- Only folders differ without a different content. -/
theorem eq_or_folders {first second : Option Item}
    (same : first.map content? = second.map content?) :
    first = second ∨
      (∃ inside, first = some (folder inside)) ∧ ∃ inside, second = some (folder inside) := by
  cases first with
  | none => exact Or.inl (Option.map_eq_none_iff.mp same.symm).symm
  | some item =>
      cases item with
      | file content =>
          obtain ⟨other, rfl, sameContent⟩ := Option.map_eq_some_iff.mp same.symm
          cases other with
          | file other => exact Or.inl (by simpa [content?, eq_comm] using sameContent)
          | folder inside => contradiction
      | folder inside =>
          exact Or.inr ⟨⟨inside, rfl⟩, map_content?_eq_some_none_iff.mp same.symm⟩

end Item

namespace Folder

/-- A second change of an item follows the first one. -/
theorem change_change (update later : Option Item → Item) (name : Text) (here : Folder) :
    (here.change update name).change later name =
      here.change (fun old => later (some (update old))) name := by
  induction here using item_induction with
  | empty => exact change_withItem later name .empty (update none)
  | item first item others inductionHypothesis =>
      by_cases same : first = name
      · subst same
        simp
      · simp only [change_withItem_of_ne same, inductionHypothesis]

/-- An item that is put twice is put once. -/
theorem put_put (item : Item) (names : List Text) (here : Folder) :
    (here.put item names).put item names = here.put item names := by
  induction names generalizing here with
  | nil => rfl
  | cons name names inductionHypothesis =>
      cases names with
      | nil => rw [put, put, change_change]
      | cons second names =>
          rw [put_cons _ _ (List.cons_ne_nil _ _), put_cons _ _ (List.cons_ne_nil _ _),
            change_change]
          refine congrArg (fun update => here.change update name) (funext fun old => ?_)
          exact congrArg Item.folder (inductionHypothesis (inside old))

section Receives

variable {names : List Text} {here : Folder}

/-- No folder stands where a file can be put. -/
theorem Receives.get?_ne_folder (receives : here.Receives names) (inside : Folder) :
    here.get? names ≠ some (.folder inside) := by
  induction receives with
  | @last name here free =>
      rw [get?_cons]
      cases found : here.find? name with
      | none => simp
      | some item =>
          cases item with
          | file content => simp [Item.get?]
          | folder inside => exact absurd found (free inside)
  | inside found receives inductionHypothesis =>
      rw [get?_cons, found, Option.bind_some, Item.get?_folder]
      exact inductionHypothesis

/-- The folders stay at their places. -/
theorem Receives.exists_folder_iff (receives : here.Receives names) (content : Content)
    (other : List Text) :
    (∃ inside, (here.put (.file content) names).get? other = some (.folder inside)) ↔
      ∃ inside, here.get? other = some (.folder inside) := by
  by_cases same : other = names
  · subst same
    have noFolder := receives.get?_ne_folder
    simp [get?_put _ receives.ne_nil, noFolder]
  · rw [← Item.map_content?_eq_some_none_iff, ← Item.map_content?_eq_some_none_iff,
      receives.content?_put_of_ne content same]

/-- A folder stays as it is, or the file is put into it. -/
theorem Receives.get?_put_of_folder (receives : here.Receives names) (content : Content)
    {folder : List Text} {items : Folder} (found : here.get? folder = some (.folder items)) :
    ∃ changed, (here.put (.file content) names).get? folder = some (.folder changed) ∧
      (changed = items ∨ ∃ rest, names = folder ++ rest ∧ items.Receives rest ∧
        changed = items.put (.file content) rest) := by
  induction folder generalizing here names with
  | nil =>
      obtain rfl := Item.folder.inj (Option.some.inj found)
      exact ⟨_, rfl, Or.inr ⟨names, rfl, receives, rfl⟩⟩
  | cons head folder inductionHypothesis =>
      cases receives with
      | @last name _ free =>
          have different : head ≠ name := by
            rintro rfl
            obtain ⟨inside, reached⟩ := @get?_of_append [head] folder here items found
            exact (Receives.last free).get?_ne_folder inside reached
          refine ⟨items, ?_, Or.inl rfl⟩
          rw [put, get?_cons, find?_change_of_ne different, ← get?_cons, found]
      | @inside name rest _ inner opened receives =>
          by_cases same : head = name
          · subst same
            rw [get?_cons, opened, Option.bind_some, Item.get?_folder] at found
            obtain ⟨changed, reached, shape⟩ := inductionHypothesis receives found
            refine ⟨changed, ?_, shape.imp_right ?_⟩
            · rw [put_cons _ _ receives.ne_nil, get?_cons, find?_change, opened]
              simpa [Folder.inside] using reached
            · rintro ⟨later, rfl, receives, rfl⟩
              exact ⟨later, rfl, receives, rfl⟩
          · refine ⟨items, ?_, Or.inl rfl⟩
            rw [put_cons _ _ receives.ne_nil, get?_cons, find?_change_of_ne same, ← get?_cons, found]

end Receives

end Folder

namespace Workspace

variable {workspace : Workspace} {names : List Text}

@[simp] theorem store_top (workspace : Workspace) (names : List Text) (text : Text) :
    (workspace.store names text).top = workspace.top.put (.file (.text text)) names := rfl

/-- A text that is stored twice is stored once. -/
theorem store_store (workspace : Workspace) (names : List Text) (text : Text) :
    (workspace.store names text).store names text = workspace.store names text := by
  simp only [store, Folder.put_put]

/-- Only the folders decide where a path leads. -/
theorem trailFrom_eq_ok {first second : Folder}
    (same : ∀ names, (∃ inside, first.get? names = some (.folder inside)) →
      ∃ inside, second.get? names = some (.folder inside))
    {trail pieces found : List Text} (followed : trailFrom first trail pieces = .ok found) :
    trailFrom second trail pieces = .ok found := by
  induction pieces generalizing trail with
  | nil => exact followed
  | cons piece pieces inductionHypothesis =>
      rw [trailFrom] at followed ⊢
      split at followed
      next => contradiction
      next => contradiction
      next items opened =>
        obtain ⟨inside, later⟩ := same _ ⟨items, opened⟩
        rw [later]
        exact inductionHypothesis followed

/-- A stored file changes no path that leads to names. -/
theorem locate_store_eq_ok_iff (receives : workspace.top.Receives names) (text : Text) {path : Path}
    {found : List Text} :
    (workspace.store names text).locate path = .ok found ↔ workspace.locate path = .ok found := by
  have same := receives.exists_folder_iff (.text text)
  simp only [locate]
  split
  next => exact Iff.rfl
  next =>
    rw [map_eq_ok_iff, map_eq_ok_iff]
    constructor
    · rintro ⟨trail, followed, rfl⟩
      exact ⟨trail, trailFrom_eq_ok (fun names => (same names).mp) followed, rfl⟩
    · rintro ⟨trail, followed, rfl⟩
      exact ⟨trail, trailFrom_eq_ok (fun names => (same names).mpr) followed, rfl⟩

/-- An item is found at a path if the path leads to names and the item stands there. -/
theorem find?_eq_some_iff {path : Path} {item : Item} :
    workspace.find? path = some item ↔
      ∃ found, workspace.locate path = .ok found ∧ workspace.top.get? found = some item := by
  rw [find?]
  cases workspace.locate path with
  | ok found => simp
  | error fault => simp

/-- The folders stay at their paths. -/
theorem exists_folder_store_iff (receives : workspace.top.Receives names) (text : Text)
    {path : Path} :
    (∃ inside, (workspace.store names text).find? path = some (.folder inside)) ↔
      ∃ inside, workspace.find? path = some (.folder inside) := by
  simp only [find?_eq_some_iff, locate_store_eq_ok_iff receives text]
  constructor
  · rintro ⟨inside, found, located, reached⟩
    obtain ⟨before, isFolder⟩ := (receives.exists_folder_iff _ found).mp ⟨inside, reached⟩
    exact ⟨before, found, located, isFolder⟩
  · rintro ⟨inside, found, located, reached⟩
    obtain ⟨after, isFolder⟩ := (receives.exists_folder_iff _ found).mpr ⟨inside, reached⟩
    exact ⟨after, found, located, isFolder⟩

/-- A folder at a path stays as it is, or the file is put into it. -/
theorem find?_store_of_folder (receives : workspace.top.Receives names) (text : Text) {path : Path}
    {items : Folder} (found : workspace.find? path = some (.folder items)) :
    ∃ changed, (workspace.store names text).find? path = some (.folder changed) ∧
      (changed = items ∨ ∃ folder rest, names = folder ++ rest ∧ items.Receives rest ∧
        changed = items.put (.file (.text text)) rest) := by
  obtain ⟨folder, located, reached⟩ := find?_eq_some_iff.mp found
  obtain ⟨changed, later, shape⟩ := receives.get?_put_of_folder (.text text) reached
  exact ⟨changed, find?_eq_some_iff.mpr ⟨folder, (locate_store_eq_ok_iff receives text).mpr located,
    later⟩, shape.imp_right fun put => ⟨folder, put⟩⟩

/-- A path that leads to another place leads to the same content. -/
theorem content?_find?_store (receives : workspace.top.Receives names) (text : Text) {path : Path}
    (apart : workspace.locate path ≠ .ok names) :
    ((workspace.store names text).find? path).map Item.content? =
      (workspace.find? path).map Item.content? := by
  rw [find?, find?]
  cases located : workspace.locate path with
  | ok found =>
      rw [(locate_store_eq_ok_iff receives text).mpr located]
      exact receives.content?_put_of_ne _ fun same => apart (by rw [located, same])
  | error fault =>
      cases later : (workspace.store names text).locate path with
      | ok found =>
          rw [(locate_store_eq_ok_iff receives text).mp later] at located
          contradiction
      | error other => rfl

/-- A file can be stored again. -/
theorem write_store (receives : workspace.top.Receives names) (text : Text) {path : Path}
    (located : workspace.locate path = .ok names) :
    (workspace.store names text).write path text = .ok (workspace.store names text) := by
  rw [write, (locate_store_eq_ok_iff receives text).mpr located]
  simp only [store_top, Folder.get?_put _ receives.ne_nil]
  exact congrArg Except.ok (store_store workspace names text)

end Workspace

end HouseStyle
