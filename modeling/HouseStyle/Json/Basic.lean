/-
This file defines JSON documents and their indented written form.
-/

import HouseStyle.Text.Basic

namespace HouseStyle

/-- A JSON document. The program writes no other numbers than counts. -/
inductive Json where
  | flag (value : Bool)
  | number (value : Nat)
  | text (value : Text)
  | list (items : List Json)
  | object (fields : List (Text × Json))

namespace Json

/-- The digits of a number below 256 in base 16. -/
def hexPair (code : Nat) : Text :=
  [Nat.digitChar (code / 16), Nat.digitChar (code % 16)]

/-- Quotes, backslashes and control characters below the space are escaped. -/
def escapeChar (char : Char) : Text :=
  match char with
  | '"' => ['\\', '"']
  | '\\' => ['\\', '\\']
  | '\x08' => ['\\', 'b']
  | '\x09' => ['\\', 't']
  | '\x0a' => ['\\', 'n']
  | '\x0c' => ['\\', 'f']
  | '\x0d' => ['\\', 'r']
  | _ => if char.toNat < 0x20 then ['\\', 'u', '0', '0'] ++ hexPair char.toNat else [char]

def quote (text : Text) : Text :=
  '"' :: text.flatMap escapeChar ++ ['"']

/-- A new line with two spaces for each level. -/
def newLine (depth : Nat) : Text :=
  '\n' :: List.replicate (2 * depth) ' '

mutual

/-- The written form of a document that stands `depth` levels deep. -/
def writeAt (depth : Nat) : Json → Text
  | flag true => "true".toList
  | flag false => "false".toList
  | number value => Text.ofNat value
  | text value => quote value
  | list [] => ['[', ']']
  | list (item :: items) =>
      '[' :: newLine (depth + 1) ++ item.writeAt (depth + 1) ++ writeItems (depth + 1) items ++
        newLine depth ++ [']']
  | object [] => ['\x7b', '\x7d']
  | object ((name, value) :: fields) =>
      '\x7b' :: newLine (depth + 1) ++ quote name ++ [':', ' '] ++ value.writeAt (depth + 1) ++
        writeFields (depth + 1) fields ++ newLine depth ++ ['\x7d']

/-- The items after the first one. -/
def writeItems (depth : Nat) : List Json → Text
  | [] => []
  | item :: items =>
      ',' :: newLine depth ++ item.writeAt depth ++ writeItems depth items

/-- The fields after the first one. -/
def writeFields (depth : Nat) : List (Text × Json) → Text
  | [] => []
  | (name, value) :: fields =>
      ',' :: newLine depth ++ quote name ++ [':', ' '] ++ value.writeAt depth ++
        writeFields depth fields

end

/-- The written form. Each item and each field stands on a line of its own. -/
def write (document : Json) : Text :=
  document.writeAt 0

end Json

end HouseStyle
