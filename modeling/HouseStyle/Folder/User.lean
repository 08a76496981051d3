/-
This file finds the ignore file of the user. The settings of git may name it.
-/

import HouseStyle.Folder.Ignore
import HouseStyle.Folder.Workspace
import HouseStyle.Regex.Capture
import HouseStyle.Regex.Flags

namespace HouseStyle

namespace GitSettings

open Unicode

/-- The expression `(?im-u)^\s*excludesfile\s*=\s*"?\s*(\S+?)\s*"?\s*$`, which finds the name of an
ignore file. -/
def ignoreFileExpr : Regex :=
  let spaces := .repeated (.one Regex.asciiSpaces) ⟨0, none⟩ true
  let quote := .repeated (.one (.single '"')) ⟨0, some 1⟩ true
  let keyword := "excludesfile".toList.map fun char => .one (.asciiCaseless (.single char))
  let file := .repeated (.one (.complement Regex.asciiSpaces)) ⟨1, none⟩ false
  Regex.concat (.check .lineStart :: spaces :: keyword ++
    [spaces, .one (.single '='), spaces, quote, spaces, .capture 1 file, spaces, quote, spaces,
      .check .lineEnd])

/-- The ignore file that the settings in a file name. -/
def ignoreFile? : Option Item → Option Path
  | some (.file (.text text)) => (ignoreFileExpr.captures 1 none text).head?
  | _ => none

end GitSettings

namespace Workspace

/-- The folder with the settings of all programs is in the home folder by default. -/
def settingsFolder (workspace : Workspace) : Option Path :=
  workspace.settings.filter (!·.isEmpty) <|>
    workspace.home.map fun home => Path.join home ".config".toList

/-- The files with settings of git. The first one that names an ignore file counts. -/
def gitSettings (workspace : Workspace) : List Path :=
  (workspace.home.map fun home => Path.join home ".gitconfig".toList).toList ++
    (workspace.settingsFolder.map fun folder => Path.join folder "git/config".toList).toList

/-- A tilde stands for the home folder, wherever it is. -/
def expandTilde (workspace : Workspace) (path : Path) : Path :=
  match workspace.home with
  | none => path
  | some home => path.flatMap fun char => if char = '~' then home else [char]

/-- The path of the ignore file of the user. There may be no file. -/
def ignoreFile? (workspace : Workspace) : Option Path :=
  let named := workspace.gitSettings.findSome? fun path =>
    GitSettings.ignoreFile? (workspace.find? path)
  named.map workspace.expandTilde <|>
    workspace.settingsFolder.map fun folder => Path.join folder "git/ignore".toList

/-- The rules of the user. Their patterns start at the working folder. -/
def userRules (workspace : Workspace) : UserRules where
  rules := IgnoreRule.ofItem (workspace.ignoreFile?.bind workspace.find?)
  start := workspace.workingPath

end Workspace

end HouseStyle
