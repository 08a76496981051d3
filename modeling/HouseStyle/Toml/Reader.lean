/-
This file reads TOML documents.
-/

import HouseStyle.Toml.Quoted
import HouseStyle.Toml.Number
import HouseStyle.Toml.Table

namespace HouseStyle.Toml

def skipBlanks (text : Text) : Text :=
  text.dropWhile isBlank

/-- This function skips white space, line breaks and comments. A comment with a control character
has no rest. -/
def skipGap (inComment : Bool) : Text → Option Text
  | [] => some []
  | '\n' :: rest => skipGap false rest
  | '\r' :: '\n' :: rest => skipGap false rest
  | char :: rest =>
      if inComment then if isControl char then none else skipGap true rest
      else if isBlank char then skipGap false rest
      else if char == '#' then skipGap true rest
      else some (char :: rest)

/-- Only a comment may follow on the line. -/
def atLineEnd (text : Text) : Bool :=
  match skipBlanks text with
  | [] => true
  | '\n' :: _ => true
  | '\r' :: '\n' :: _ => true
  | '#' :: _ => true
  | _ => false

def isKeyChar (char : Char) : Bool :=
  char.isAlphanum || char == '_' || char == '-'

/-- A part of a key is bare or quoted. -/
def readKeyPart (text : Text) : Option (Text × Text) :=
  match text.takeWhile isKeyChar with
  | [] => readQuotedLine text
  | part => some (part, text.dropWhile isKeyChar)

/-- This function reads the parts of a dotted key. Each part takes at least one character, so the
length of the text is enough fuel. -/
def readKeyParts : Nat → Text → Option (List Text × Text)
  | 0, _ => none
  | fuel + 1, text =>
      match readKeyPart (skipBlanks text) with
      | none => none
      | some (part, rest) =>
          match skipBlanks rest with
          | '.' :: rest =>
              (readKeyParts fuel rest).map fun (parts, rest) => (part :: parts, rest)
          | rest => some ([part], rest)

/-- The rest starts after the white space behind the key. -/
def readKey (text : Text) : Option (List Text × Text) :=
  readKeyParts text.length text

def readScalar (text : Text) : Option (Value × Text) :=
  (scalar? (text.takeWhile isScalarChar)).map fun value => (value, text.dropWhile isScalarChar)

mutual

def readValue : Nat → Text → Option (Value × Text)
  | 0, _ => none
  | fuel + 1, text =>
      match text with
      | '[' :: rest => (readItems fuel rest).map fun (items, rest) => (.list items, rest)
      | '\x7b' :: rest =>
          (readEntries fuel [] rest).map fun (entries, rest) => (.table .inline entries, rest)
      | '"' :: _ => (readQuoted text).map fun (value, rest) => (.text value, rest)
      | '\'' :: _ => (readQuoted text).map fun (value, rest) => (.text value, rest)
      | _ => readScalar text

/-- This function reads the items of a list up to the closing bracket. A comma may follow the last
item. -/
def readItems : Nat → Text → Option (List Value × Text)
  | 0, _ => none
  | fuel + 1, text =>
      match skipGap false text with
      | none => none
      | some (']' :: rest) => some ([], rest)
      | some start =>
          match readValue fuel start with
          | none => none
          | some (item, rest) =>
              match skipGap false rest with
              | some (',' :: rest) =>
                  (readItems fuel rest).map fun (items, rest) => (item :: items, rest)
              | some (']' :: rest) => some ([item], rest)
              | _ => none

/-- This function reads the entries of a table up to the closing brace. -/
def readEntries : Nat → Entries → Text → Option (Entries × Text)
  | 0, _, _ => none
  | fuel + 1, entries, text =>
      match skipGap false text with
      | none => none
      | some ('\x7d' :: rest) => some (entries, rest)
      | some start =>
          match readAssignment fuel start with
          | none => none
          | some ((key, value), rest) =>
              match entries.assign value key, skipGap false rest with
              | some entries, some (',' :: rest) => readEntries fuel entries rest
              | some entries, some ('\x7d' :: rest) => some (entries, rest)
              | _, _ => none

/-- This function reads a key, an equals sign and a value. -/
def readAssignment : Nat → Text → Option ((List Text × Value) × Text)
  | 0, _ => none
  | fuel + 1, text =>
      match readKey text with
      | some (key, '=' :: rest) =>
          (readValue fuel (skipBlanks rest)).map fun (value, rest) => ((key, value), rest)
      | _ => none

end

/-- Each call takes a character or is one of three calls at the same place. -/
def fuelFor (text : Text) : Nat :=
  3 * text.length + 3

/-- The path of a header, with the rest after its closing brackets. -/
def readHeader (closing : Text) (text : Text) : Option (List Text × Text) :=
  (readKey text).bind fun (path, rest) =>
    (List.isPrefixOf? closing rest).map fun rest => (path, rest)

/-- This function applies a change to the table that contains the last part of a path. -/
def Entries.extend (change : Text → Entries → Option Entries) (path : List Text)
    (root : Entries) : Option Entries :=
  path.getLast?.bind fun name => root.within (change name) path.dropLast

/-- The document that has been read so far, and the path of the current header. -/
structure Document where
  root : Entries := []
  current : List Text := []

/-- This function reads one header or assignment. -/
def readStatement (document : Document) (text : Text) : Option (Document × Text) :=
  match text with
  | '[' :: '[' :: rest =>
      (readHeader [']', ']'] rest).bind fun (path, rest) =>
        (document.root.extend Entries.appendTable path).map fun root => (⟨root, path⟩, rest)
  | '[' :: rest =>
      (readHeader [']'] rest).bind fun (path, rest) =>
        (document.root.extend Entries.openTable path).map fun root => (⟨root, path⟩, rest)
  | _ =>
      (readAssignment (fuelFor text) text).bind fun ((key, value), rest) =>
        (document.root.within (Entries.assign value key) document.current).map fun root =>
          ({ document with root }, rest)

/-- This function reads all statements. Each of them takes at least one character, so the length of
the text is enough fuel. -/
def readStatements : Nat → Document → Text → Option Entries
  | 0, _, _ => none
  | fuel + 1, document, text =>
      match skipGap false text with
      | none => none
      | some [] => some document.root
      | some start =>
          match readStatement document start with
          | none => none
          | some (document, rest) =>
              if atLineEnd rest then readStatements fuel document rest else none

/-- A byte order mark in front of the document is dropped. -/
def dropMark : Text → Text
  | '\uFEFF' :: rest => rest
  | text => text

/-- The entries of the top level of a document. -/
def read (text : Text) : Option Entries :=
  readStatements (text.length + 1) {} (dropMark text)

end HouseStyle.Toml
