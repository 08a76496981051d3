/-
This file reads ignore files and decides which items of a folder are ignored. Besides the ignore
files in the folders there is one of the user, whose patterns start at the working folder.
-/

import HouseStyle.Folder.Basic
import HouseStyle.Glob.Basic
import HouseStyle.Text.Search

namespace HouseStyle

/-- One line of an ignore file. -/
structure IgnoreRule where
  glob : Glob
  /-- The line keeps what earlier lines ignore. -/
  keeps : Bool
  /-- The line concerns folders only. -/
  onlyFolders : Bool

namespace IgnoreRule

/-- White space at the end of a line does not count, unless a backslash protects a space. -/
def trimLine (line : Text) : Text :=
  if ['\\', ' '].isSuffixOf line then line else Text.trimEnd line

/-- A line without its signs. -/
structure Parts where
  keeps : Bool
  /-- The pattern starts at the folder of the ignore file. -/
  anchored : Bool
  pattern : Text

/-- A backslash protects an exclamation mark or a hash at the beginning. -/
def partsOf (line : Text) : Parts :=
  match line with
  | '\\' :: '!' :: rest => ⟨false, false, '!' :: rest⟩
  | '\\' :: '#' :: rest => ⟨false, false, '#' :: rest⟩
  | '!' :: '/' :: rest => ⟨true, true, rest⟩
  | '!' :: rest => ⟨true, false, rest⟩
  | '/' :: rest => ⟨false, true, rest⟩
  | _ => ⟨false, false, line⟩

/-- This function removes a slash at the end, which may be escaped. -/
def dropSlash (pattern : Text) : Option Text :=
  match pattern.reverse with
  | '/' :: '\\' :: rest => some rest.reverse
  | '/' :: rest => some rest.reverse
  | _ => none

/-- A pattern without a slash matches in every folder. -/
def anywhere (anchored : Bool) (pattern : Text) : Text :=
  if anchored || '/' ∈ pattern || pattern == ['*', '*'] then pattern
  else ['*', '*', '/'] ++ pattern

/-- A pattern for all items of a folder does not match the folder itself. -/
def insideOnly (pattern : Text) : Text :=
  if ['/', '*', '*'].isSuffixOf pattern then pattern ++ ['/', '*'] else pattern

/-- In an ignore file a star does not match a slash. -/
def options : Glob.Options where
  strictSeparator := true
  looseClass := true

/-- The rule of a line. Comments, blank lines and lines with an invalid pattern have no rule. -/
def ofLine? (line : Text) : Option IgnoreRule :=
  let line := trimLine line
  if line.isEmpty || line.head? == some '#' then none
  else
    let parts := partsOf line
    let pattern := (dropSlash parts.pattern).getD parts.pattern
    match Glob.ofText? options (insideOnly (anywhere parts.anchored pattern)) with
    | .error _ => none
    | .ok glob =>
        some { glob, keeps := parts.keeps, onlyFolders := (dropSlash parts.pattern).isSome }

/-- The rules of an ignore file. A byte order mark in front of it is dropped. A file has no rules if
one of its patterns cannot be compiled. -/
def ofItem : Option Item → List IgnoreRule
  | some (.file (.text text)) =>
      let rules := (Text.lines (text.dropWhile (· == '\uFEFF'))).filterMap ofLine?
      if rules.all fun rule => rule.glob.compiles then rules else []
  | _ => []

def concerns (isFolder : Bool) (path : Path) (rule : IgnoreRule) : Bool :=
  (isFolder || !rule.onlyFolders) && rule.glob.covers path

/-- The last rule that concerns an item decides whether it is ignored. -/
def verdict? (isFolder : Bool) (path : Path) (rules : List IgnoreRule) : Option Bool :=
  (rules.reverse.find? (concerns isFolder path)).map fun rule => !rule.keeps

end IgnoreRule

/-- The ignore files of a folder on the way to the current one. -/
structure IgnoreLevel where
  /-- The names that lead from the folder to the current one. -/
  names : List Text
  general : List IgnoreRule
  shared : List IgnoreRule
  own : List IgnoreRule

namespace IgnoreLevel

/-- The ignore files of a folder: a general one, the one that is shared in a repository, and the
one of a single copy. -/
def ofFolder (here : Folder) : IgnoreLevel where
  names := []
  general := IgnoreRule.ofItem (here.find? ".ignore".toList)
  shared := IgnoreRule.ofItem (here.find? ".gitignore".toList)
  own := IgnoreRule.ofItem (here.get? [".git".toList, "info".toList, "exclude".toList])

def enter (name : Text) (level : IgnoreLevel) : IgnoreLevel :=
  { level with names := level.names ++ [name] }

/-- The path of an item of the current folder, relative to the folder of the level. -/
def pathOf (name : Text) (level : IgnoreLevel) : Path :=
  List.intercalate ['/'] (level.names ++ [name])

/-- The innermost level with a rule for the item decides. -/
def verdict? (select : IgnoreLevel → List IgnoreRule) (isFolder : Bool) (name : Text)
    (levels : List IgnoreLevel) : Option Bool :=
  levels.findSome? fun level =>
    IgnoreRule.verdict? isFolder (level.pathOf name) (select level)

/-- General ignore files come first, then the shared ones, then those of a copy. The levels are
ordered from the current folder outwards. -/
def decision? (isFolder : Bool) (name : Text) (levels : List IgnoreLevel) : Option Bool :=
  verdict? general isFolder name levels <|> verdict? shared isFolder name levels <|>
    verdict? own isFolder name levels

end IgnoreLevel

/-- The ignore file of the user. -/
structure UserRules where
  rules : List IgnoreRule
  /-- The path of the folder at which the patterns start. -/
  start : Path

namespace UserRules

def dropDot (path : Path) : Path :=
  (List.isPrefixOf? ['.', '/'] path).getD path

/-- The part of a path that the patterns see. The path of the folder is dropped as a text, whether or
not a component ends there. -/
def pathOf (path : Path) (user : UserRules) : Path :=
  -- The dot is dropped once for all ignore files and once for this one.
  let short := dropDot (dropDot path)
  match List.isPrefixOf? user.start short with
  | none => short
  | some rest => (List.isPrefixOf? ['/'] rest).getD rest

def verdict? (isFolder : Bool) (path : Path) (user : UserRules) : Option Bool :=
  IgnoreRule.verdict? isFolder (user.pathOf path) user.rules

end UserRules

/-- The ignore files that concern the items of a folder. -/
structure IgnoreState where
  levels : List IgnoreLevel
  /-- The path of the folder. -/
  path : Path
  user : UserRules

namespace IgnoreState

/-- The ignore file of the user decides if no other one does. -/
def ignores (state : IgnoreState) (isFolder : Bool) (name : Text) : Bool :=
  (IgnoreLevel.decision? isFolder name state.levels <|>
    state.user.verdict? isFolder (Path.join state.path name)).getD false

/-- The ignore files that concern the items of a folder inside. -/
def enter (name : Text) (items : Folder) (state : IgnoreState) : IgnoreState where
  levels := .ofFolder items :: state.levels.map (IgnoreLevel.enter name)
  path := Path.join state.path name
  user := state.user

end IgnoreState

namespace Folder

/-- The files that are not ignored. An ignored folder is skipped with everything inside. -/
def keptFiles (state : IgnoreState) : Folder → List (List Text × Content)
  | empty => []
  | file name content others =>
      (if state.ignores false name then [] else [([name], content)]) ++ keptFiles state others
  | folder name items others =>
      (if state.ignores true name then []
        else
          (keptFiles (state.enter name items) items).map
            fun (names, content) => (name :: names, content)) ++
        keptFiles state others

/-- The files of the folder at a path that no ignore file names: neither that of the user nor its own
ones and those inside. -/
def unignoredFiles (user : UserRules) (path : Path) (here : Folder) : List (List Text × Content) :=
  keptFiles { levels := [.ofFolder here], path, user } here

end Folder

end HouseStyle
