/-
This file recognizes the lines that declare functions, includes and constants.
-/

import HouseStyle.Source.Symbol

namespace HouseStyle

namespace Definition

/-- The text before the parameter list. -/
def head (line : Text) : Text :=
  line.takeWhile (· ≠ '(')

/-- A definition starts at the first column. A directive, a comment and an assignment are no
definitions. An equals sign may stand in front of the parameter list only in an operator. -/
def isCandidate (line : Text) : Bool :=
  match line with
  | [] => false
  | first :: _ =>
      !(Text.isBlankChar first || first == '#' || first == '/') &&
        ('=' ∉ head line || Text.occurs "operator".toList (head line))

/-- This function removes the standard scope. -/
def dropStandardScope : Text → Text
  | [] => []
  | 's' :: 't' :: 'd' :: ':' :: ':' :: rest => dropStandardScope rest
  | char :: rest => char :: dropStandardScope rest

/-- The text before the first parenthesis, if there is a parenthesis with something before it. -/
def nameBefore? (text : Text) : Option Text :=
  match Text.cutAt? '(' text with
  | some (first :: name, _) => some (first :: name)
  | _ => none

/-- The text before the last `::` that is followed by a name and a parenthesis, and this name. The
text before the `::` has at least one character and no line feed. -/
def splitScope? : Text → Option (Text × Text)
  | [] => none
  | char :: rest =>
      if char = '\n' then none
      else
        match splitScope? rest with
        | some (qualifier, name) => some (char :: qualifier, name)
        | none =>
            match rest with
            | ':' :: ':' :: after => (nameBefore? after).map fun name => ([char], name)
            | _ => none

/-- The text after the last space that has characters on both sides. -/
def afterLastSpace? : Text → Option Text
  | [] => none
  | _ :: rest =>
      match afterLastSpace? rest with
      | some name => some name
      | none =>
          match rest with
          | ' ' :: first :: name => some (first :: name)
          | _ => none

/-- The last word of a qualifier, without the signs of references and pointers. Only spaces
separate words. -/
def scopeOf (qualifier : Text) : Text :=
  let plain := (Text.trim qualifier).filter fun char => char != '&' && char != '*'
  (List.splitOn ' ' plain).getLast?.getD []

/-- The scope and the name of a method. -/
def scoped? (line : Text) : Option (Text × Text) :=
  (splitScope? line).map fun (qualifier, name) => (scopeOf qualifier, Text.trim name)

/-- The name of a free function, which has an empty scope. -/
def free? (line : Text) : Option (Text × Text) :=
  (Text.cutAt? '(' line).bind fun (head, _) =>
    (afterLastSpace? head).map fun name => ([], Text.trim name)

/-- The scope and the name of the function that the line declares. -/
def ofLine? (line : Text) : Option (Text × Text) :=
  if isCandidate line then
    let plain := dropStandardScope line
    (scoped? plain <|> free? plain).filter fun (_, name) => !name.isEmpty
  else none

end Definition

namespace Include

/-- The target of an include directive. It reaches to the end of the line. -/
def target? (line : Text) : Option Text :=
  match List.isPrefixOf? "#include ".toList line with
  | none => none
  | some rest =>
      match rest.takeWhile (· ≠ '\n') with
      | [] => none
      | target => some (Text.trim target)

/-- A framework target has one of the given texts after an opening angle. -/
def categorize (frameworks : List Text) (target : Text) : Category :=
  if frameworks.any fun start => Text.occurs ('<' :: start) target then .framework
  else if target.head? == some '<' then .system
  else .project

end Include

namespace Constant

def isNameStart (char : Char) : Bool :=
  char.isUpper || char == '_'

def isNamePart (char : Char) : Bool :=
  char.isUpper || char.isDigit || char == '_'

/-- A name of capital letters, digits and underscores at the beginning of the text, and the text
after it. -/
def splitName? : Text → Option (Text × Text)
  | [] => none
  | char :: rest =>
      if isNameStart char then
        some (char :: rest.takeWhile isNamePart, rest.dropWhile isNamePart)
      else none

/-- The name of the namespace that the line opens. -/
def opener? (line : Text) : Option Text :=
  match (List.isPrefixOf? "namespace ".toList line).bind splitName? with
  | some (name, '\x7b' :: _) => some name
  | some (name, ' ' :: '\x7b' :: _) => some name
  | _ => none

/-- The declaration ends with a semicolon that has no closing parenthesis before it. -/
def endsDeclaration (tail : Text) : Bool :=
  ';' ∈ tail.takeWhile (· ≠ ')')

/-- The name after the last space that fits. There is no equals sign before this space, and at
least one character. -/
def declared? : Text → Option Text
  | [] => none
  | char :: rest =>
      if char = '=' then none
      else
        match declared? rest with
        | some name => some name
        | none =>
            match rest with
            | ' ' :: after =>
                match splitName? after with
                | some (name, tail) => if endsDeclaration tail then some name else none
                | none => none
            | _ => none

/-- The name of the constant that the line declares, after the last `const ` that fits. -/
def name? : Text → Option Text
  | [] => none
  | char :: rest =>
      match if char = '\n' then none else name? rest with
      | some name => some name
      | none => (List.isPrefixOf? "const ".toList (char :: rest)).bind declared?

end Constant

end HouseStyle
