/-
This file writes reports and symbols for readers, line by line.
-/

import HouseStyle.Report.Basic

namespace HouseStyle

namespace Listing

/-- Colours are switched by escape sequences of the terminal. -/
structure Palette where
  path : Text := []
  label : Text := []
  reset : Text := []

def Palette.plain : Palette := {}

def Palette.colored : Palette where
  path := '\x1b' :: "[36m".toList
  label := '\x1b' :: "[33m".toList
  reset := '\x1b' :: "[0m".toList

/-- The palette of a listing with or without colours. -/
def Palette.ofColor (color : Bool) : Palette :=
  if color then .colored else .plain

def pathLine (palette : Palette) (path : Path) : Text :=
  palette.path ++ path ++ palette.reset ++ ['\n']

def problemLine (palette : Palette) (problem : Problem) : Text :=
  "  ".toList ++ palette.label ++ problem.kind.label ++ palette.reset ++ ": ".toList ++
    problem.detail ++ ['\n']

/-- The title of a list with the number of its items. -/
def countLine (title : Text) (count : Nat) : Text :=
  title ++ " (".toList ++ Text.ofNat count ++ "):\n".toList

/-- A line of a list of symbols. The line number takes six columns. -/
def symbolLine (line : Nat) (description : Text) : Text :=
  "  ".toList ++ Text.field 6 (Text.ofNat line) ++ ' ' :: description ++ ['\n']

end Listing

open Listing

def Report.Entry.listing (palette : Palette) (entry : Report.Entry) : Text :=
  pathLine palette entry.path ++ entry.problems.flatMap (problemLine palette)

/-- A path stands on a line of its own. The problems of the file follow. -/
def Report.listing (palette : Palette) (report : Report) : Text :=
  if report.hasProblems then report.entries.flatMap (Report.Entry.listing palette)
  else "No problems found.\n".toList

def Function.description (function : Function) : Text :=
  function.fullName ++ '(' :: List.intercalate ", ".toList function.parameters ++ [')']

def Include.description (directive : Include) : Text :=
  directive.target ++ " [".toList ++ directive.category.label ++ [']']

def Constant.description (constant : Constant) : Text :=
  constant.scope ++ "::".toList ++ constant.name

def Symbols.listing (palette : Palette) (path : Path) (symbols : Symbols) : Text :=
  pathLine palette path ++
    countLine "Functions".toList symbols.functions.length ++
    (symbols.functions.flatMap fun function => symbolLine function.line function.description) ++
    countLine "Includes".toList symbols.includes.length ++
    (symbols.includes.flatMap fun directive => symbolLine directive.line directive.description) ++
    countLine "Constants".toList symbols.constants.length ++
    symbols.constants.flatMap fun constant => symbolLine constant.line constant.description

end HouseStyle
