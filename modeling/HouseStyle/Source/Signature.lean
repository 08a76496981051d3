/-
This file finds the names of the parameters of a function.
-/

import HouseStyle.Text.Search

namespace HouseStyle.Signature

/-- The state of a scan for bracketed spans: the kept characters in reverse, the number of open
brackets, and the open span from its first bracket in reverse. -/
structure Scan where
  kept : Text := []
  depth : Nat := 0
  span : Text := []

def Scan.step (first last : Char) (scan : Scan) (char : Char) : Scan :=
  if char = first then
    { scan with depth := scan.depth + 1, span := char :: scan.span }
  else if scan.depth = 0 then { scan with kept := char :: scan.kept }
  else if char = last then
    if scan.depth = 1 then { scan with depth := 0, span := [] }
    else { scan with depth := scan.depth - 1, span := char :: scan.span }
  else { scan with span := char :: scan.span }

def Scan.result (scan : Scan) : Text :=
  scan.kept.reverse ++ scan.span.reverse

/-- This function removes the outermost spans between the two brackets. A closing bracket without
an opening one is kept, and an opening bracket that is never closed keeps the rest of the text. -/
def stripSpans (first last : Char) (text : Text) : Text :=
  (text.foldl (Scan.step first last) {}).result

/-- The kinds of brackets whose spans are removed from a parameter list. -/
def brackets : List (Char × Char) :=
  [('<', '>'), ('[', ']'), ('(', ')')]

/-- The text before the first default value. A default value has at least one character. -/
def cutDefault : Text → Text
  | [] => []
  | char :: rest =>
      match List.isPrefixOf? " = ".toList (char :: rest) with
      | some (_ :: _) => []
      | _ => char :: cutDefault rest

/-- This function cuts every declaration but the last one. -/
def cutInner : List Text → List Text
  | [] => []
  | [last] => [last]
  | declaration :: others => cutDefault declaration :: cutInner others

/-- This function removes the default values that end with a comma. -/
def dropInnerDefaults (text : Text) : Text :=
  List.intercalate [','] (cutInner (List.splitOn ',' text))

/-- This function removes the default value of the last parameter. It reaches to the end of the
text and does not contain a line feed. -/
def dropLastDefault : Text → Text
  | [] => []
  | char :: rest =>
      match List.isPrefixOf? " = ".toList (char :: rest) with
      | some (first :: value) =>
          if (first :: value).contains '\n' then char :: dropLastDefault rest else []
      | _ => char :: dropLastDefault rest

/-- The last word of a declaration without the signs of references and pointers. A declaration of
a single word has no name. -/
def parameterName? (declaration : Text) : Option Text :=
  match Text.words declaration with
  | [] => none
  | [_] => none
  | first :: second :: others =>
      let name := ((second :: others).getLast?.getD first).dropWhile fun char =>
        char == '&' || char == '*'
      if name.isEmpty then none else some name

/-- The text from the beginning to the parenthesis that closes the given number of open ones. -/
def untilClosed (depth : Nat) : Text → Option Text
  | [] => none
  | '(' :: rest => (untilClosed (depth + 1) rest).map ('(' :: ·)
  | ')' :: rest =>
      if depth ≤ 1 then some [] else (untilClosed (depth - 1) rest).map (')' :: ·)
  | char :: rest => (untilClosed depth rest).map (char :: ·)

/-- The text between the first opening parenthesis and the one that closes it. -/
def parenthesized? (signature : Text) : Option Text :=
  (Text.cutAt? '(' signature).bind fun (_, rest) => untilClosed 1 rest

/-- The parameter list without bracketed spans and default values. -/
def simplify (inner : Text) : Text :=
  let stripped := brackets.foldl (fun text (first, last) => stripSpans first last text)
    (Text.trim inner)
  dropLastDefault (dropInnerDefaults stripped)

/-- The names of the parameters of a signature on one line. -/
def parameters (signature : Text) : List Text :=
  match parenthesized? signature with
  | none => []
  | some inner => (List.splitOn ',' (simplify inner)).filterMap parameterName?

/-- What one line adds to a signature: its text up to the brace of the body, or the whole line and
the number of parentheses that are open after it. -/
inductive LineScan where
  | body (part : Text)
  | open (depth : Nat)

def LineScan.cons (char : Char) : LineScan → LineScan
  | body part => body (char :: part)
  | LineScan.open depth => LineScan.open depth

/-- The body opens at the first brace outside parentheses. -/
def scanLine (depth : Nat) : Text → LineScan
  | [] => .open depth
  | '\x7b' :: rest => if depth = 0 then .body [] else (scanLine depth rest).cons '\x7b'
  | '(' :: rest => (scanLine (depth + 1) rest).cons '('
  | ')' :: rest => (scanLine (depth - 1) rest).cons ')'
  | char :: rest => (scanLine depth rest).cons char

/-- The parts of the lines that belong to a signature, each after a space. The signature ends at
the body, at a line that ends with a colon outside parentheses, or at the end of the lines. -/
def collectFrom (depth : Nat) : List Text → Text
  | [] => []
  | line :: lines =>
      let line := Text.dropEndWhile (· == '\r') line
      match scanLine depth line with
      | .body part => ' ' :: part
      | .open later =>
          if later = 0 && line.getLast? == some ':' then ' ' :: line.dropLast
          else ' ' :: line ++ collectFrom later lines

/-- The signature that starts on the first of the given lines. -/
def collect (lines : List Text) : Text :=
  Text.trim (collectFrom 0 lines)

/-- The names of the parameters of the function that is declared on the line with the given index,
counted from 0. -/
def parametersAt (lines : List Text) (index : Nat) : List Text :=
  parameters (collect (lines.drop index))

end HouseStyle.Signature
