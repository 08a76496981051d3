/-
This file is the command line of the program. It reads the files that a run may see, runs the
program on them, and writes what has changed.
-/

import HouseStyle.Program

namespace HouseStyle.Main

/-- The names of an absolute path. -/
def namesOf (path : Text) : List Text :=
  (Text.pieces '/' path).filter fun piece => !piece.isEmpty

def contentOf (bytes : ByteArray) : Content :=
  match String.fromUTF8? bytes with
  | some text => .text text.toList
  | none => .binary

/-- This function reads the given entries of a folder. Links are left out. -/
partial def readEntries (entries : List IO.FS.DirEntry) : IO Folder := do
  match entries with
  | [] => return .empty
  | entry :: rest =>
      let others ← readEntries rest
      let name := entry.fileName.toList
      match (← entry.path.symlinkMetadata).type with
      | .file => return .file name (contentOf (← IO.FS.readBinFile entry.path)) others
      | .dir => return .folder name (← readEntries (← entry.path.readDir).toList) others
      | _ => return others

/-- This function adds the file or folder at a path, if there is one. -/
def readPath (top : Folder) (path : Text) : IO Folder := do
  let place := (← IO.currentDir) / String.ofList path
  if !(← place.pathExists) then return top
  let names := namesOf (toString (← IO.FS.realPath place)).toList
  if ← place.isDir then
    return top.put (.folder (← readEntries (← place.readDir).toList)) names
  else return top.put (.file (contentOf (← IO.FS.readBinFile place))) names

/-- The folder with the configuration of the user. A folder for settings counts if its path is
absolute. -/
def userFolder (settings home : Option Path) : Option Path :=
  match settings.filter Path.isAbsolute, home with
  | some folder, _ => some (Path.join folder "style-guard".toList)
  | none, some home => some (Path.join home ".config/style-guard".toList)
  | none, none => none

/-- The environment may name a folder. -/
def folderOf? (name : String) : IO (Option Path) := do
  return (← IO.getEnv name).map String.toList

/-- The working folder, the configuration of the user, and the ignore file of the user with the
settings that name it. -/
def readWorkspace : IO Workspace := do
  let settings ← folderOf? "XDG_CONFIG_HOME"
  let home ← folderOf? "HOME"
  let userFolder := userFolder settings home
  let userFile := userFolder.map fun folder => Path.join folder Config.userName
  let start : Workspace :=
    { top := ← readPath (← userFile.toList.foldlM readPath Folder.empty) ['.']
      working := namesOf (toString (← IO.FS.realPath ".")).toList
      userFolder, home, settings }
  let known := { start with top := ← start.gitSettings.foldlM readPath start.top }
  return { known with top := ← known.ignoreFile?.toList.foldlM readPath known.top }

/-- Output goes in colours to a terminal, unless the environment forbids it. -/
def showsColors : IO Bool := do
  return (← (← IO.getStdout).isTty) && (← IO.getEnv "NO_COLOR").isNone

/-- This function writes the files that a run has changed. -/
def writeChanges (before after : Folder) : IO Unit := do
  for (names, content) in before.changes after do
    if let .text text := content then
      IO.FS.writeFile (String.ofList ('/' :: Text.joined ['/'] names)) (String.ofList text)

/-- The program sees the working folder, the configuration of the user, everything that its
arguments name, and the folder that it searches. -/
def run (arguments : List Text) : IO UInt32 := do
  let start ← readWorkspace
  let named := { start with top := ← arguments.foldlM readPath start.top }
  let searched := (Program.searchedFolder? named arguments).toList
  let before := { named with top := ← searched.foldlM readPath named.top }
  let outcome := Program.run (← showsColors) before arguments
  IO.print (String.ofList outcome.output)
  writeChanges before.top outcome.workspace.top
  IO.eprint (String.ofList outcome.errors)
  return outcome.code.toUInt32

end HouseStyle.Main

def main (arguments : List String) : IO UInt32 :=
  HouseStyle.Main.run (arguments.map String.toList)
