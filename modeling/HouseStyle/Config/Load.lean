/-
This file finds the configuration file that applies.
-/

import HouseStyle.Config.Reader

namespace HouseStyle

/-- What stands at the path of a configuration file. -/
inductive Finding where
  | missing
  /-- There is something that is no text file. -/
  | unreadable
  | text (content : Text)
  deriving DecidableEq, Repr

namespace Config

/-- The name of a configuration file in the working folder. -/
def localName : Text :=
  ".style-guard.toml".toList

/-- The name of a configuration file in the folder of the user. -/
def userName : Text :=
  "config.toml".toList

/-- The paths of the configuration files that are looked for, in order. -/
def candidates (workingFolder userFolder : Option Path) : List Path :=
  (workingFolder.map fun folder => Path.join folder localName).toList ++
    (userFolder.map fun folder => Path.join folder userName).toList

/-- The configuration in a file that exists. -/
def ofFinding (path : Path) : Finding → Except Error Config
  | .text content => ofText content
  | _ => .error (.unreadableFile path)

/-- The first candidate that exists decides, even if it cannot be read. The default configuration
applies if there is none. -/
def loadFirst (find : Path → Finding) : List Path → Except Error Config
  | [] => .ok {}
  | path :: others =>
      if find path = .missing then loadFirst find others else ofFinding path (find path)

/-- The configuration in the file with the given path. -/
def loadFile (find : Path → Finding) (path : Path) : Except Error Config :=
  if find path = .missing then .error (.config (.missingFile path))
  else ofFinding path (find path)

end Config

end HouseStyle
