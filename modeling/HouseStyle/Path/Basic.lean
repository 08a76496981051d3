/-
This file defines paths, their components, their order and their extensions.
-/

import HouseStyle.Text.Search

namespace HouseStyle

/-- A path is written with `/` between its components. -/
abbrev Path := Text

namespace Path

inductive Component where
  | root
  /-- A single dot. It counts only at the beginning of a relative path. -/
  | here
  | up
  | named (name : Text)
  deriving DecidableEq, Repr

def piece? (piece : Text) : Option Component :=
  if piece.isEmpty || piece == ['.'] then none
  else if piece == ['.', '.'] then some .up
  else some (.named piece)

/-- Repeated separators, separators at the end and inner dots do not count. -/
def components (path : Path) : List Component :=
  let pieces := List.splitOn '/' path
  let start : List Component :=
    match path, pieces with
    | '/' :: _, _ => [.root]
    | _, ['.'] :: _ => [.here]
    | _, _ => []
  start ++ pieces.filterMap piece?

/-- The components are ordered: the root, a dot, two dots, and then the names. -/
def Component.key : Component → Text
  | root => ['\x00']
  | here => ['\x01']
  | up => ['\x02']
  | named name => '\x03' :: name

/-- Two paths with the same key are the same path. Paths are ordered by their keys, so `a/b` comes
before `a-b`. -/
def key (path : Path) : List Text :=
  (components path).map Component.key

def same (first second : Path) : Bool :=
  key first == key second

def before (first second : Path) : Bool :=
  decide (key first < key second)

/-- The last component, if it is a name. -/
def fileName? (path : Path) : Option Text :=
  match (components path).getLast? with
  | some (.named name) => some name
  | _ => none

/-- The part after the last dot of a text, if there is a dot after the first character. -/
def afterLastDot? : Text → Option Text
  | [] => none
  | _ :: rest =>
      match afterLastDot? rest with
      | some extension => some extension
      | none =>
          match rest with
          | '.' :: extension => some extension
          | _ => none

/-- The extension of the file name. A dot at the beginning of a name starts no extension. -/
def extension? (path : Path) : Option Text :=
  (fileName? path).bind afterLastDot?

def isAbsolute (path : Path) : Bool :=
  path.head? == some '/'

/-- This function appends a relative path. An absolute path replaces the first one. -/
def join (folder path : Path) : Path :=
  if isAbsolute path || folder.isEmpty then path
  else if folder.getLast? == some '/' then folder ++ path
  else folder ++ '/' :: path

/-- Extensions are compared in lower case, without white space around them and without dots in
front. -/
def normalizeExtension (extension : Text) : Text :=
  Text.lowerAscii ((Text.trim extension).dropWhile (· == '.'))

/-- The path has one of the given extensions, which are normalized. -/
def hasExtension (extensions : List Text) (path : Path) : Bool :=
  match extension? path with
  | none => false
  | some extension => extensions.contains (Text.lowerAscii extension)

end Path

end HouseStyle
