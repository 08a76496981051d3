/-
This file finds and writes files by their paths.
-/

import HouseStyle.Folder.Basic
import HouseStyle.Path.Basic
import HouseStyle.Error

namespace HouseStyle

/-- The files that a program can see. -/
structure Workspace where
  /-- The folder at the top. -/
  top : Folder
  /-- The names that lead from the top to the working folder. -/
  working : List Text
  /-- The folder with the configuration of the user. -/
  userFolder : Option Path
  /-- The home folder of the user. -/
  home : Option Path := none
  /-- The folder with the settings of all programs, if the environment names one. -/
  settings : Option Path := none

namespace Workspace

/-- The path of the working folder. -/
def workingPath (workspace : Workspace) : Path :=
  '/' :: List.intercalate ['/'] workspace.working

/-- This function follows one piece of a path. The trail holds the names so far in reverse. The top
is its own parent. -/
def follow (trail : List Text) (piece : Text) : List Text :=
  if piece.isEmpty || piece == ['.'] then trail
  else if piece == ['.', '.'] then trail.tail
  else piece :: trail

/-- This function follows the pieces of a path. Every item on the way has to be a folder. -/
def trailFrom (top : Folder) (trail : List Text) : List Text → Except WriteFault (List Text)
  | [] => .ok trail
  | piece :: pieces =>
      match top.get? trail.reverse with
      | none => .error (if (piece :: pieces).all List.isEmpty then .isFolder else .missingFolder)
      | some (.file _) => .error .notFolder
      | some (.folder _) => trailFrom top (follow trail piece) pieces

/-- The names that lead to a path. There may be no item with the last name. -/
def locate (workspace : Workspace) (path : Path) : Except WriteFault (List Text) :=
  if path.isEmpty then .error .missingFolder
  else
    let start := if Path.isAbsolute path then [] else workspace.working.reverse
    (trailFrom workspace.top start (List.splitOn '/' path)).map List.reverse

/-- The item at a path. -/
def find? (workspace : Workspace) (path : Path) : Option Item :=
  match workspace.locate path with
  | .error _ => none
  | .ok names => workspace.top.get? names

/-- This function writes a file. -/
def write (workspace : Workspace) (path : Path) (text : Text) : Except WriteFault Workspace :=
  match workspace.locate path with
  | .error fault => .error fault
  | .ok names =>
      match workspace.top.get? names with
      | some (.folder _) => .error .isFolder
      | _ => .ok { workspace with top := workspace.top.put (.file (.text text)) names }

/-- The text of the file at a path. -/
def readText (workspace : Workspace) (path : Path) : Except Error Text :=
  match workspace.find? path with
  | some (.file (.text text)) => .ok text
  | _ => .error (.unreadableFile path)

end Workspace

end HouseStyle
