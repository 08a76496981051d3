/-
This file decides which files are checked.
-/

import HouseStyle.Config.Basic
import HouseStyle.Error
import HouseStyle.Glob.Basic

namespace HouseStyle

/-- A file is checked if it has one of the extensions and no excluded glob covers its path. -/
structure Selection where
  /-- The extensions in normalized form. None of them is empty. -/
  extensions : List Text
  excluded : List Glob

namespace Selection

/-- The glob of an excluded pattern. -/
def globOfText (pattern : Text) : Except Error Glob :=
  match Glob.ofText? {} pattern with
  | .error _ => .error (.invalidGlob pattern)
  | .ok glob => .ok glob

/-- All globs are compiled together, so an error names all of their patterns. -/
def compile (exclude : List Text) (excluded : List Glob) : Except Error Unit :=
  if excluded.all Glob.compiles then .ok ()
  else .error (.invalidGlob (List.intercalate ", ".toList exclude))

/-- Every pattern is read first, and then the globs are compiled. -/
def ofLists (extensions exclude : List Text) : Except Error Selection := do
  let excluded ← exclude.mapM globOfText
  compile exclude excluded
  return {
    extensions := (extensions.map Path.normalizeExtension).filter (!·.isEmpty)
    excluded }

def ofConfig (config : ScannerConfig) : Except Error Selection :=
  ofLists config.extensions config.exclude

def accepts (selection : Selection) (path : Path) : Bool :=
  Path.hasExtension selection.extensions path &&
    !(selection.excluded.any fun glob => glob.covers path)

end Selection

end HouseStyle
