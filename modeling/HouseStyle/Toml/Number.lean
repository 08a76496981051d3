/-
This file reads whole numbers and the two truth values.
-/

import HouseStyle.Toml.Basic
import HouseStyle.Text.Search

namespace HouseStyle.Toml

/-- The value of a digit in a base up to 16. -/
def digitValue? (base : Nat) (char : Char) : Option Nat :=
  let value :=
    if char.isDigit then char.toNat - '0'.toNat
    else if 'a' ≤ char && char ≤ 'f' then char.toNat - 'a'.toNat + 10
    else if 'A' ≤ char && char ≤ 'F' then char.toNat - 'A'.toNat + 10
    else 16
  if value < base then some value else none

/-- The number with the given digits, the first one being the highest. -/
def ofDigits (base : Nat) (digits : List Nat) : Nat :=
  digits.foldl (fun number digit => base * number + digit) 0

/-- An underscore may stand between two digits. -/
def natural? (base : Nat) (text : Text) : Option Nat :=
  let parts := List.splitOn '_' text
  if parts.any List.isEmpty then none
  else (parts.flatten.mapM (digitValue? base)).map (ofDigits base)

/-- A decimal number has no zero in front of other digits. -/
def decimal? (text : Text) : Option Nat :=
  match text with
  | '0' :: _ :: _ => none
  | _ => natural? 10 text

/-- A decimal number may have a sign. Numbers in other bases have none. -/
def number? : Text → Option Int
  | '0' :: 'x' :: digits => (natural? 16 digits).map Int.ofNat
  | '0' :: 'o' :: digits => (natural? 8 digits).map Int.ofNat
  | '0' :: 'b' :: digits => (natural? 2 digits).map Int.ofNat
  | '+' :: digits => (decimal? digits).map Int.ofNat
  | '-' :: digits => (decimal? digits).map fun number => -Int.ofNat number
  | digits => (decimal? digits).map Int.ofNat

/-- The characters of numbers and truth values. -/
def isScalarChar (char : Char) : Bool :=
  char.isAlphanum || char == '_' || char == '+' || char == '-'

/-- This function reads a value that is not quoted. -/
def scalar? (word : Text) : Option Value :=
  if word = "true".toList then some (.flag true)
  else if word = "false".toList then some (.flag false)
  else (number? word).map .number

end HouseStyle.Toml
