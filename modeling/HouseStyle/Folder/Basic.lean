/-
This file defines trees of folders and files.
-/

import HouseStyle.Text.Basic

namespace HouseStyle

/-- The content of a file is a text, or bytes that are the encoding of no text. -/
inductive Content where
  | text (value : Text)
  | binary
  deriving DecidableEq, Repr

/-- The items of a folder. Each constructor adds one item with its name. -/
inductive Folder where
  | empty
  | file (name : Text) (content : Content) (others : Folder)
  | folder (name : Text) (inside : Folder) (others : Folder)
  deriving DecidableEq, Repr

/-- What has a name in a folder. -/
inductive Item where
  | file (content : Content)
  | folder (inside : Folder)
  deriving DecidableEq, Repr

namespace Folder

def find? (name : Text) : Folder → Option Item
  | empty => none
  | file other content others => if other = name then some (.file content) else find? name others
  | folder other inside others =>
      if other = name then some (.folder inside) else find? name others

/-- This function adds an item in front of the others. -/
def withItem (name : Text) (others : Folder) : Item → Folder
  | .file content => file name content others
  | .folder inside => folder name inside others

/-- This function replaces the item with the given name. A new item comes last. -/
def change (update : Option Item → Item) (name : Text) : Folder → Folder
  | empty => withItem name empty (update none)
  | file other content others =>
      if other = name then withItem name others (update (some (.file content)))
      else file other content (change update name others)
  | folder other inside others =>
      if other = name then withItem name others (update (some (.folder inside)))
      else folder other inside (change update name others)

/-- The items of a folder. Everything else has none. -/
def inside : Option Item → Folder
  | some (.folder items) => items
  | _ => empty

/-- The item at the end of a list of names. -/
def get? : List Text → Folder → Option Item
  | [], here => some (.folder here)
  | name :: names, here =>
      match here.find? name with
      | none => none
      | some (.file content) => if names.isEmpty then some (.file content) else none
      | some (.folder items) => get? names items

/-- This function puts an item at the end of a list of names. Missing folders are opened. -/
def put (item : Item) : List Text → Folder → Folder
  | [], here => here
  | [name], here => here.change (fun _ => item) name
  | name :: second :: names, here =>
      here.change (fun old => .folder (put item (second :: names) (inside old))) name

/-- This function opens all folders of a list of names. -/
def makeFolder : List Text → Folder → Folder
  | [], here => here
  | name :: names, here =>
      here.change (fun item => .folder (makeFolder names (inside item))) name

/-- All files with the names that lead to them. -/
def files : Folder → List (List Text × Content)
  | empty => []
  | file name content others => ([name], content) :: files others
  | folder name items others =>
      (files items).map (fun (names, content) => (name :: names, content)) ++ files others

/-- The files that are new or have a new content. -/
def changes (before after : Folder) : List (List Text × Content) :=
  after.files.filter fun (names, content) => before.get? names ≠ some (.file content)

end Folder

end HouseStyle
