/-
This file defines the configuration and its default values.
-/

import HouseStyle.Text.Basic

namespace HouseStyle

/-- The files that are checked. -/
structure ScannerConfig where
  /-- The folder that is checked if the command line names none. -/
  root : Text := ".".toList
  /-- The extensions of all files that are checked. -/
  extensions : List Text := ["cpp".toList, "h".toList]
  /-- The glob patterns of paths that are left out. -/
  exclude : List Text := ["**/.git/**".toList]
  /-- Files that an ignore file names are left out. -/
  gitignore : Bool := false
  deriving DecidableEq, Repr

/-- The symbols that are extracted. -/
structure SymbolsConfig where
  /-- The extensions of the files that have symbols. -/
  extensions : List Text := ["cpp".toList]
  /-- The beginnings of framework includes. -/
  frameworks : List Text := ["allegro".toList]
  deriving DecidableEq, Repr

/-- The place of constructors and destructors among the functions of a class. -/
inductive SpecialPlacement where
  | first
  | last
  deriving DecidableEq, Repr

structure OrderingConfig where
  enabled : Bool := true
  /-- The names of functions that may stand anywhere. -/
  exceptions : List Text := ["create_fsm".toList]
  constructors : SpecialPlacement := .last
  deriving DecidableEq, Repr

structure DocumentationConfig where
  enabled : Bool := true
  /-- The beginning of the first line of a documentation block. -/
  blockStart : Text := "/**".toList
  /-- The tag in front of a documented parameter. -/
  paramTag : Text := "@param".toList
  deriving DecidableEq, Repr

structure SpacingConfig where
  enabled : Bool := true
  minBlankLines : Nat := 2
  deriving DecidableEq, Repr

structure LineLengthConfig where
  enabled : Bool := true
  max : Nat := 80
  deriving DecidableEq, Repr

structure ForbiddenConfig where
  /-- The regular expressions that may not match in a line. -/
  patterns : List Text := []
  deriving DecidableEq, Repr

structure ReportConfig where
  /-- Problems in paths that contain one of these texts are not reported. -/
  exclude : List Text :=
    ["imgui/".toList, "shaders_source.cpp".toList, "code_debug.cpp".toList]
  /-- The file that the report is written to. -/
  output : Text := "problems.txt".toList
  deriving DecidableEq, Repr

structure Config where
  scanner : ScannerConfig := {}
  symbols : SymbolsConfig := {}
  ordering : OrderingConfig := {}
  documentation : DocumentationConfig := {}
  spacing : SpacingConfig := {}
  lineLength : LineLengthConfig := {}
  forbidden : ForbiddenConfig := {}
  report : ReportConfig := {}
  deriving DecidableEq, Repr

end HouseStyle
