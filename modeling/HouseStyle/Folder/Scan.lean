/-
This file finds the files that are checked.
-/

import HouseStyle.Folder.User
import HouseStyle.Selection

namespace HouseStyle

/-- A file that is found, with its path. -/
structure FoundFile where
  path : Path
  content : Content
  deriving DecidableEq, Repr

/-- The path of a file starts with the path of the folder that is searched. -/
def FoundFile.ofNames (root : Path) : List Text × Content → FoundFile
  | (names, content) => { path := Path.join root (List.intercalate ['/'] names), content }

/-- The order of files is the order of their paths. -/
def FoundFile.inOrder (first second : FoundFile) : Bool :=
  !Path.before second.path first.path

/-- The files of a folder that are selected, in the order of their paths. Ignore files count only if
the rules of the user are given. -/
def Folder.select (here : Folder) (selection : Selection) (user : Option UserRules) (root : Path) :
    List FoundFile :=
  let files :=
    match user with
    | none => here.files
    | some user => here.unignoredFiles user root
  let found := files.map (FoundFile.ofNames root)
  (found.filter fun file => selection.accepts file.path).mergeSort FoundFile.inOrder

/-- The selected files below a path, which has to be the path of a folder. -/
def Workspace.scan (workspace : Workspace) (selection : Selection) (useIgnoreFiles : Bool)
    (root : Path) : Except Error (List FoundFile) :=
  match workspace.find? root with
  | some (.folder here) =>
      .ok (here.select selection (if useIgnoreFiles then some workspace.userRules else none) root)
  | _ => .error (.missingRoot root)

end HouseStyle
