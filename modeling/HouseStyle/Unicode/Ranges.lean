/-
This file defines sets of code points that are written as runs, and maps of code points that are
written in the same way.
-/

namespace HouseStyle.Unicode

/-- The code points `first`, `first + step`, ..., up to `last`. -/
structure Run where
  first : Nat
  last : Nat
  step : Nat

def Run.contains (run : Run) (code : Nat) : Bool :=
  code ≤ run.last && (code - run.first) % run.step == 0

/-- A set of code points. The runs do not overlap and their code points increase. -/
abbrev Ranges := List Run

/-- The runs increase, so the search ends at the first run that starts above the code point. -/
def Ranges.contains (code : Nat) : Ranges → Bool
  | [] => false
  | run :: runs =>
      if code < run.first then false else run.contains code || Ranges.contains code runs

/-- The code points of a run move together: the image of `first` is `target`. -/
structure Shift where
  run : Run
  target : Nat

def Shift.image? (shift : Shift) (code : Nat) : Option Nat :=
  if shift.run.first ≤ code && shift.run.contains code then
    some (shift.target + (code - shift.run.first))
  else none

def Shift.source? (shift : Shift) (code : Nat) : Option Nat :=
  if shift.target ≤ code then
    let source := shift.run.first + (code - shift.target)
    if shift.run.contains source then some source else none
  else none

/-- A map of code points. A code point outside all runs is its own image. -/
abbrev Shifts := List Shift

def Shifts.image (shifts : Shifts) (code : Nat) : Nat :=
  (shifts.findSome? (·.image? code)).getD code

/-- The code points inside the runs that are mapped to `code`. -/
def Shifts.sources (shifts : Shifts) (code : Nat) : List Nat :=
  shifts.filterMap (·.source? code)

/-! The written form of a run is `first`, `first-last` or `first-last/step`, in hexadecimal. The
written form of a shift is a run, the sign `>` and the target. -/

def hexDigit (char : Char) : Nat :=
  if char.isDigit then char.toNat - '0'.toNat else char.toNat - 'A'.toNat + 10

def hexNumber (digits : List Char) : Nat :=
  digits.foldl (fun number digit => 16 * number + hexDigit digit) 0

/-- The part before the first separator and the part after it, which is empty if there is none. -/
def breakAt (separator : Char) (text : List Char) : List Char × List Char :=
  (text.takeWhile (· ≠ separator), (text.dropWhile (· ≠ separator)).drop 1)

def Run.ofText (text : List Char) : Run :=
  let (bounds, step) := breakAt '/' text
  let (first, last) := breakAt '-' bounds
  { first := hexNumber first
    last := hexNumber (if last.isEmpty then first else last)
    step := if step.isEmpty then 1 else hexNumber step }

def Shift.ofText (text : List Char) : Shift :=
  let (run, target) := breakAt '>' text
  { run := Run.ofText run, target := hexNumber target }

/-- The words of some lines, separated by single spaces. -/
def entries (lines : List String) : List (List Char) :=
  lines.flatMap fun line => (line.splitOn " ").map String.toList

def Ranges.ofLines (lines : List String) : Ranges :=
  (entries lines).map Run.ofText

def Shifts.ofLines (lines : List String) : Shifts :=
  (entries lines).map Shift.ofText

end HouseStyle.Unicode
