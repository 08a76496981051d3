/-
This file defines the problems that rules find.
-/

import HouseStyle.Source.Extraction
import HouseStyle.Path.Basic

namespace HouseStyle

inductive ProblemKind where
  | longLine
  | unorderedFunctions
  | unorderedNamespaces
  | unorderedIncludes
  | unorderedConstants
  | crampedCloseBrace
  | crampedIncludes
  | crampedUsings
  | missingDocumentation
  | undocumentedParameter
  | unknownDocumentedParameter
  | forbiddenToken
  | unreadableFile
  deriving DecidableEq, Repr

namespace ProblemKind

/-- The words for a kind of problem in the report. -/
def label : ProblemKind → Text
  | longLine => "Long line".toList
  | unorderedFunctions => "Unordered functions".toList
  | unorderedNamespaces => "Unordered namespaces".toList
  | unorderedIncludes => "Unordered includes".toList
  | unorderedConstants => "Unordered namespace constants".toList
  | crampedCloseBrace => "Missing blank lines after close brace".toList
  | crampedIncludes => "Missing blank lines after includes".toList
  | crampedUsings => "Missing blank lines after usings".toList
  | missingDocumentation => "Function without documentation".toList
  | undocumentedParameter => "Undocumented parameter".toList
  | unknownDocumentedParameter => "Unknown documented parameter".toList
  | forbiddenToken => "Forbidden token".toList
  | unreadableFile => "Unreadable file".toList

/-- The identifier of a kind of problem in machine-readable reports. -/
def identifier : ProblemKind → Text
  | longLine => "long_line".toList
  | unorderedFunctions => "unordered_functions".toList
  | unorderedNamespaces => "unordered_namespaces".toList
  | unorderedIncludes => "unordered_includes".toList
  | unorderedConstants => "unordered_constants".toList
  | crampedCloseBrace => "cramped_close_brace".toList
  | crampedIncludes => "cramped_includes".toList
  | crampedUsings => "cramped_usings".toList
  | missingDocumentation => "missing_documentation".toList
  | undocumentedParameter => "undocumented_parameter".toList
  | unknownDocumentedParameter => "unknown_documented_parameter".toList
  | forbiddenToken => "forbidden_token".toList
  | unreadableFile => "unreadable_file".toList

end ProblemKind

/-- A problem in a file. The line is 0 if the problem concerns the whole file. -/
structure Problem where
  kind : ProblemKind
  line : Nat
  detail : Text
  /-- The path of the file. A rule sees lines only and leaves it empty. -/
  path : Path := []
  deriving DecidableEq, Repr

/-- This function names the file of a problem. -/
def Problem.inFile (path : Path) (problem : Problem) : Problem :=
  { problem with path }

/-- A line number takes four columns in a detail. -/
def lineField (line : Nat) : Text :=
  Text.field 4 (Text.ofNat line)

/-- A file that is checked: its lines, and its symbols if it has any. -/
structure Source where
  lines : List Text
  symbols : Option Symbols

end HouseStyle
