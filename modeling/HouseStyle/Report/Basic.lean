/-
This file collects the problems of all files in a report.
-/

import HouseStyle.Rule.Problem
import HouseStyle.Path.Basic

namespace HouseStyle

/-- The problems of one file. -/
structure Report.Entry where
  /-- The path as it was written first. -/
  path : Path
  problems : List Problem
  deriving DecidableEq, Repr

/-- The number of files that were checked, and the files with problems in the order of paths. -/
structure Report where
  scanned : Nat := 0
  entries : List Report.Entry := []
  deriving DecidableEq, Repr

namespace Report

/-- This function appends problems to the entry of the path. It opens an entry in the order of
paths if there is none. -/
def insertEntry (path : Path) (problems : List Problem) : List Entry → List Entry
  | [] => [⟨path, problems⟩]
  | entry :: entries =>
      if Path.same path entry.path then
        { entry with problems := entry.problems ++ problems } :: entries
      else if Path.before path entry.path then ⟨path, problems⟩ :: entry :: entries
      else entry :: insertEntry path problems entries

/-- A file without problems has no entry. -/
def add (report : Report) (path : Path) (problems : List Problem) : Report :=
  if problems.isEmpty then report
  else { report with entries := insertEntry path problems report.entries }

def hasProblems (report : Report) : Bool :=
  report.entries.any fun entry => !entry.problems.isEmpty

def problemCount (report : Report) : Nat :=
  (report.entries.flatMap Entry.problems).length

end Report

end HouseStyle
