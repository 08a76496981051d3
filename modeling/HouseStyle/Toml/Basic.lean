/-
This file defines the values of TOML documents.
-/

import HouseStyle.Text.Basic

namespace HouseStyle.Toml

/-- The ways in which a table comes into being. They decide how later lines may extend it. -/
inductive Origin where
  /-- A header names the table. -/
  | header
  /-- A header names a table inside. -/
  | implied
  /-- A dotted key names an entry of the table. -/
  | dotted
  /-- The table is written between braces and cannot be extended. -/
  | inline
  deriving DecidableEq, Repr

/-- The values of a document. Numbers with fractions and dates are not among them, because no
setting has such a value. -/
inductive Value where
  | text (value : Text)
  | number (value : Int)
  | flag (value : Bool)
  | list (items : List Value)
  /-- The tables that double headers open. -/
  | tables (items : List Value)
  | table (origin : Origin) (entries : List (Text × Value))

/-- The entries of a table, with different names. -/
abbrev Entries := List (Text × Value)

/-- Control characters except the tab may stand in no text and in no comment. -/
def isControl (char : Char) : Bool :=
  (char.toNat < 0x20 && char != '\t') || char.toNat == 0x7F

def isBlank (char : Char) : Bool :=
  char == ' ' || char == '\t'

end HouseStyle.Toml
