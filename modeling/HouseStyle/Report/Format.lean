/-
This file defines the two output formats and writes reports and symbols in them.
-/

import HouseStyle.Report.Listing
import HouseStyle.Report.Document
import HouseStyle.Text.Lowercase

namespace HouseStyle

inductive Format where
  | text
  | json
  deriving DecidableEq, Repr

/-- The name of a format is read without regard to case. -/
def Format.ofText? (name : Text) : Option Format :=
  let lower := Text.lowercase name
  if lower = "text".toList then some .text
  else if lower = "json".toList then some .json
  else none

/-- The message for a name that is no format. -/
def Format.unknownMessage (name : Text) : Text :=
  "Unknown output format: ".toList ++ name

/-- Colours exist in listings only. -/
def Report.write (format : Format) (color : Bool) (report : Report) : Text :=
  match format with
  | .text => report.listing (.ofColor color)
  | .json => report.document.write

def Symbols.write (format : Format) (color : Bool) (path : Path) (symbols : Symbols) : Text :=
  match format with
  | .text => symbols.listing (.ofColor color) path
  | .json => (symbols.document path).write

end HouseStyle
