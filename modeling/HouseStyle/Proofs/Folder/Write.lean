/-
This file proves that writing a file changes the file at its path and nothing else.
-/

import HouseStyle.Proofs.Result
import HouseStyle.Proofs.Text.Basic
import HouseStyle.Folder.Workspace

namespace HouseStyle

namespace Item

/-- The content of a file. A folder has none. -/
def content? : Item → Option Content
  | file content => some content
  | folder _ => none

/-- The item at the end of a list of names that starts at an item. -/
def get? : List Text → Item → Option Item
  | names, folder items => items.get? names
  | [], item => some item
  | _ :: _, file _ => none

@[simp] theorem get?_folder (names : List Text) (items : Folder) :
    get? names (folder items) = items.get? names := by
  cases names <;> rfl

/-- Only a folder has other items inside. -/
theorem eq_folder_of_get?_eq_folder {names : List Text} {item : Item} {items : Folder}
    (found : item.get? names = some (folder items)) :
    ∃ inside, item = folder inside ∧ inside.get? names = some (folder items) := by
  cases item with
  | folder inside => exact ⟨inside, rfl, by rwa [get?_folder] at found⟩
  | file content => cases names <;> simp [get?] at found

end Item

namespace Folder

@[simp] theorem get?_nil (here : Folder) : here.get? [] = some (.folder here) := rfl

/-- The first name leads to an item, and the other names start there. -/
theorem get?_cons (name : Text) (names : List Text) (here : Folder) :
    here.get? (name :: names) = (here.find? name).bind (Item.get? names) := by
  rw [get?]
  cases here.find? name with
  | none => rfl
  | some item =>
      cases item with
      | folder items => simp
      | file content => cases names <;> rfl

/-- The first names lead to an item, and the other names start there. -/
theorem get?_append (first second : List Text) (here : Folder) :
    here.get? (first ++ second) = (here.get? first).bind (Item.get? second) := by
  induction first generalizing here with
  | nil => simp
  | cons name first inductionHypothesis =>
      rw [List.cons_append, get?_cons, get?_cons]
      cases here.find? name with
      | none => rfl
      | some item =>
          cases item with
          | folder items => simp [inductionHypothesis]
          | file content => cases first <;> cases second <;> rfl

/-- Every item on the way to a folder is a folder. -/
theorem get?_of_append {first second : List Text} {here items : Folder}
    (found : here.get? (first ++ second) = some (.folder items)) :
    ∃ inside, here.get? first = some (.folder inside) := by
  rw [get?_append] at found
  obtain ⟨item, reached, later⟩ := Option.bind_eq_some_iff.mp found
  obtain ⟨inside, rfl, _⟩ := Item.eq_folder_of_get?_eq_folder later
  exact ⟨inside, reached⟩

section Change

variable {update : Option Item → Item} {name other : Text}

/-- A folder is empty, or it has a first item. -/
theorem item_induction {motive : Folder → Prop} (empty : motive .empty)
    (item : ∀ name item others, motive others → motive (withItem name others item))
    (here : Folder) : motive here := by
  induction here with
  | empty => exact empty
  | file name content others inductionHypothesis =>
      exact item name (.file content) others inductionHypothesis
  | folder name inside others _ inductionHypothesis =>
      exact item name (.folder inside) others inductionHypothesis

/-- The first item is found by its name. -/
@[simp] theorem find?_withItem (name : Text) (others : Folder) (item : Item) :
    (withItem name others item).find? name = some item := by
  cases item <;> simp [withItem, find?]

/-- Another name is looked for behind the first item. -/
theorem find?_withItem_of_ne (different : other ≠ name) (others : Folder) (item : Item) :
    (withItem name others item).find? other = others.find? other := by
  cases item <;> simp [withItem, find?, Ne.symm different]

/-- The change of the first item leaves the others alone. -/
@[simp] theorem change_withItem (update : Option Item → Item) (name : Text) (others : Folder)
    (item : Item) :
    (withItem name others item).change update name =
      withItem name others (update (some item)) := by
  cases item <;> simp [withItem, change]

/-- The change of another item leaves the first one alone. -/
theorem change_withItem_of_ne (different : other ≠ name) (update : Option Item → Item)
    (others : Folder) (item : Item) :
    (withItem other others item).change update name =
      withItem other (others.change update name) item := by
  cases item <;> simp [withItem, change, different]

/-- The item that is changed is found afterwards. -/
theorem find?_change (update : Option Item → Item) (name : Text) (here : Folder) :
    (here.change update name).find? name = some (update (here.find? name)) := by
  induction here using item_induction with
  | empty => exact find?_withItem name .empty (update none)
  | item first item others inductionHypothesis =>
      by_cases same : first = name
      · subst same
        simp
      · rw [change_withItem_of_ne same, find?_withItem_of_ne (Ne.symm same), inductionHypothesis,
          find?_withItem_of_ne (Ne.symm same)]

/-- The other items are found as before. -/
theorem find?_change_of_ne (different : other ≠ name) (update : Option Item → Item)
    (here : Folder) : (here.change update name).find? other = here.find? other := by
  induction here using item_induction with
  | empty => exact find?_withItem_of_ne different .empty (update none)
  | item first item others inductionHypothesis =>
      by_cases same : first = name
      · subst same
        rw [change_withItem, find?_withItem_of_ne different, find?_withItem_of_ne different]
      · rw [change_withItem_of_ne same]
        by_cases found : other = first
        · subst found
          simp
        · rw [find?_withItem_of_ne found, inductionHypothesis, find?_withItem_of_ne found]

end Change

section Put

variable {item : Item} {name : Text}

theorem put_cons (item : Item) (name : Text) {names : List Text} (filled : names ≠ [])
    (here : Folder) :
    here.put item (name :: names) =
      here.change (fun old => .folder ((inside old).put item names)) name := by
  cases names with
  | nil => exact absurd rfl filled
  | cons second names => rfl

/-- An item is found where it is put. -/
theorem get?_put (item : Item) {names : List Text} (filled : names ≠ []) (here : Folder) :
    (here.put item names).get? names = some item := by
  induction names generalizing here with
  | nil => exact absurd rfl filled
  | cons name names inductionHypothesis =>
      rw [get?_cons]
      cases names with
      | nil =>
          rw [put, find?_change]
          cases item <;> rfl
      | cons second names =>
          rw [put_cons item name (List.cons_ne_nil _ _), find?_change, Option.bind_some,
            Item.get?_folder]
          exact inductionHypothesis (List.cons_ne_nil _ _) _

/-- A file can be put at the end of a list of names: the names in front of the last one lead to a
folder, and no folder has the last name. -/
inductive Receives : List Text → Folder → Prop
  | last {name : Text} {here : Folder} (free : ∀ inside, here.find? name ≠ some (.folder inside)) :
      Receives [name] here
  | inside {name : Text} {names : List Text} {here items : Folder}
      (found : here.find? name = some (.folder items)) (receives : Receives names items) :
      Receives (name :: names) here

theorem Receives.ne_nil {names : List Text} {here : Folder} (receives : here.Receives names) :
    names ≠ [] := by
  cases receives <;> exact List.cons_ne_nil _ _

/-- A file can be put in a folder under a name that is not the name of a folder. -/
theorem receives_append {folder : List Text} {here items : Folder}
    (opened : here.get? folder = some (.folder items))
    (free : ∀ inside, here.get? (folder ++ [name]) ≠ some (.folder inside)) :
    here.Receives (folder ++ [name]) := by
  induction folder generalizing here with
  | nil =>
      refine .last fun inside found => free inside ?_
      rw [List.nil_append, get?_cons, found]
      rfl
  | cons head folder inductionHypothesis =>
      rw [get?_cons] at opened
      obtain ⟨item, found, later⟩ := Option.bind_eq_some_iff.mp opened
      obtain ⟨inner, rfl, opened⟩ := Item.eq_folder_of_get?_eq_folder later
      refine .inside found (inductionHypothesis opened fun inside reached => free inside ?_)
      rw [List.cons_append, get?_cons, found, Option.bind_some, Item.get?_folder, reached]

/-- A file that is put at the end of a list of names changes nothing else. -/
theorem Receives.content?_put_of_ne {names other : List Text} {here : Folder}
    (receives : here.Receives names) (content : Content) (different : other ≠ names) :
    ((here.put (.file content) names).get? other).map Item.content? =
      (here.get? other).map Item.content? := by
  induction receives generalizing other with
  | @last name here free =>
      cases other with
      | nil => rfl
      | cons first rest =>
          rw [put, get?_cons, get?_cons]
          by_cases same : first = name
          · -- The names go on after the file, so nothing stands there before and after.
            obtain ⟨second, rest, rfl⟩ := List.exists_cons_of_ne_nil
              (show rest ≠ [] from fun empty => different (by rw [same, empty]))
            rw [same, find?_change]
            cases found : here.find? name with
            | none => rfl
            | some item =>
                cases item with
                | file content => rfl
                | folder inside => exact absurd found (free inside)
          · rw [find?_change_of_ne same]
  | @inside name names here items found receives inductionHypothesis =>
      cases other with
      | nil => rfl
      | cons first rest =>
          rw [put_cons _ _ receives.ne_nil, get?_cons, get?_cons]
          by_cases same : first = name
          · have differentRest : rest ≠ names := fun equal => different (by rw [same, equal])
            rw [same, find?_change, found]
            simpa [Folder.inside] using inductionHypothesis differentRest
          · rw [find?_change_of_ne same]

end Put

end Folder

namespace Workspace

/-- One file is written, and everything else stays as it is. -/
structure WritesOnly (before : Workspace) (names : List Text) (text : Text) (after : Workspace) :
    Prop where
  written : after.top.get? names = some (.file (.text text))
  others : ∀ other, other ≠ names →
    (after.top.get? other).map Item.content? = (before.top.get? other).map Item.content?
  working : after.working = before.working
  userFolder : after.userFolder = before.userFolder
  home : after.home = before.home
  settings : after.settings = before.settings

/-- A piece of a path that leads out of the folders is a name. -/
theorem follow_of_no_folder {top items : Folder} {trail : List Text} {piece : Text}
    (opened : top.get? trail.reverse = some (.folder items))
    (noFolder : ∀ inside, top.get? (follow trail piece).reverse ≠ some (.folder inside)) :
    follow trail piece = piece :: trail ∧ Path.piece? piece = some (.named piece) := by
  rw [follow] at noFolder ⊢
  rw [Path.piece?]
  split at noFolder
  next => exact absurd opened (noFolder items)
  next plain =>
    split at noFolder
    next =>
      cases trail with
      | nil => exact absurd opened (noFolder items)
      | cons name trail =>
          rw [List.reverse_cons] at opened
          obtain ⟨inside, reached⟩ := Folder.get?_of_append opened
          exact absurd reached (noFolder inside)
    next inner => simp only [plain, inner, Bool.false_eq_true, if_false, and_self]

/-- A located path that is no folder ends with a name in a folder. -/
theorem trailFrom_of_no_folder {top : Folder} {trail pieces names : List Text}
    (filled : pieces ≠ []) (found : trailFrom top trail pieces = .ok names)
    (noFolder : ∀ inside, top.get? names.reverse ≠ some (.folder inside)) :
    ∃ folder name items, names = name :: folder ∧ pieces.getLast? = some name ∧
      Path.piece? name = some (.named name) ∧ top.get? folder.reverse = some (.folder items) := by
  induction pieces generalizing trail with
  | nil => exact absurd rfl filled
  | cons piece pieces inductionHypothesis =>
      rw [trailFrom] at found
      split at found
      next => contradiction
      next => contradiction
      next items opened =>
        cases pieces with
        | nil =>
            obtain rfl := Except.ok.inj found
            obtain ⟨shape, isName⟩ := follow_of_no_folder opened noFolder
            exact ⟨trail, piece, items, shape, rfl, isName, opened⟩
        | cons second pieces =>
            rw [List.getLast?_cons_cons]
            exact inductionHypothesis (List.cons_ne_nil _ _) found

/-- A path that does not lead to a folder ends with a name in a folder. -/
theorem locate_of_no_folder {workspace : Workspace} {path : Path} {names : List Text}
    (located : workspace.locate path = .ok names)
    (noFolder : ∀ inside, workspace.top.get? names ≠ some (.folder inside)) :
    ∃ folder name items, names = folder ++ [name] ∧
      (List.splitOn '/' path).getLast? = some name ∧ Path.piece? name = some (.named name) ∧
      workspace.top.get? folder = some (.folder items) := by
  rw [locate] at located
  split at located
  next => contradiction
  next =>
    obtain ⟨trail, found, rfl⟩ := map_eq_ok_iff.mp located
    obtain ⟨folder, name, items, rfl, last, isName, opened⟩ :=
      trailFrom_of_no_folder (List.splitOn_ne_nil _ _) found noFolder
    exact ⟨folder.reverse, name, items, List.reverse_cons, last, isName, opened⟩

/-- The text decides neither whether a file can be written nor where it stands. -/
theorem write_eq_error {workspace : Workspace} {path : Path} {text : Text} {fault : WriteFault}
    (refused : workspace.write path text = .error fault) (other : Text) :
    workspace.write path other = .error fault := by
  rw [write] at refused ⊢
  split at refused
  next => exact refused
  next =>
    split at refused
    next => exact refused
    next => contradiction

/-- The workspace with a text in the file at the end of a list of names. -/
def store (workspace : Workspace) (names : List Text) (text : Text) : Workspace :=
  { workspace with top := workspace.top.put (.file (.text text)) names }

/-- A file that is written is stored at its path. -/
theorem write_eq_ok {workspace changed : Workspace} {path : Path} {text : Text}
    (written : workspace.write path text = .ok changed) :
    ∃ names, workspace.locate path = .ok names ∧ workspace.top.Receives names ∧
      changed = workspace.store names text := by
  rw [write] at written
  split at written
  next => contradiction
  next names located =>
    split at written
    next => contradiction
    next noFolder =>
      obtain ⟨folder, name, items, rfl, -, -, opened⟩ := locate_of_no_folder located noFolder
      exact ⟨folder ++ [name], located, Folder.receives_append opened noFolder,
        (Except.ok.inj written).symm⟩

/-- Writing a file changes this file only. -/
theorem writesOnly_write {workspace changed : Workspace} {path : Path} {text : Text}
    (written : workspace.write path text = .ok changed) :
    ∃ names, workspace.locate path = .ok names ∧ workspace.WritesOnly names text changed := by
  obtain ⟨names, located, receives, rfl⟩ := write_eq_ok written
  exact ⟨names, located,
    { written := Folder.get?_put _ receives.ne_nil _
      others := fun _ => receives.content?_put_of_ne _
      working := rfl
      userFolder := rfl
      home := rfl
      settings := rfl }⟩

end Workspace

end HouseStyle
