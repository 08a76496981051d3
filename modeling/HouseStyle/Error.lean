/-
This file lists the errors of the program and their messages.
-/

import HouseStyle.Path.Basic

namespace HouseStyle

/-- The reasons why a configuration is refused although it can be read. -/
inductive ConfigFault where
  | noExtensions
  /-- A symbol extension is not among the scanned ones. -/
  | unscannedExtension (extension : Text)
  | zeroLineLength
  | emptyBlockStart
  | emptyParamTag
  | emptyOutput
  /-- The named configuration file does not exist. -/
  | missingFile (path : Path)
  /-- A configuration file would be overwritten. -/
  | existingFile (path : Path)
  deriving DecidableEq, Repr

/-- The reasons why a file cannot be written. -/
inductive WriteFault where
  | missingFolder
  | notFolder
  | isFolder
  deriving DecidableEq, Repr

inductive Error where
  | config (fault : ConfigFault)
  | unreadableFile (path : Path)
  | unwritableReport (path : Path)
  | missingRoot (path : Path)
  | invalidGlob (pattern : Text)
  | invalidRegex (pattern : Text)
  | write (fault : WriteFault)
  /-- A configuration file is no document with the known sections and keys. -/
  | malformedConfig
  deriving DecidableEq, Repr

def ConfigFault.message : ConfigFault → Text
  | noExtensions => "scanner.extensions cannot be empty".toList
  | unscannedExtension extension =>
      "symbols.extensions contains '".toList ++ extension ++
        "', which is not in scanner.extensions".toList
  | zeroLineLength => "line_length.max must be greater than 0".toList
  | emptyBlockStart => "documentation.block_start cannot be empty".toList
  | emptyParamTag => "documentation.param_tag cannot be empty".toList
  | emptyOutput => "report.output cannot be empty".toList
  | missingFile path => "Configuration file not found: ".toList ++ path
  | existingFile path =>
      "Configuration file already exists: ".toList ++ path ++
        ". Use --force to overwrite.".toList

def WriteFault.message : WriteFault → Text
  | missingFolder => "No such file or directory (os error 2)".toList
  | notFolder => "Not a directory (os error 20)".toList
  | isFolder => "Is a directory (os error 21)".toList

def Error.message : Error → Text
  | config fault => "Configuration error: ".toList ++ fault.message
  | unreadableFile path => "Failed to read file: ".toList ++ path
  | unwritableReport path => "Failed to write report: ".toList ++ path
  | missingRoot path => "Source folder does not exist: ".toList ++ path
  | invalidGlob pattern => "Invalid glob pattern: ".toList ++ pattern
  | invalidRegex pattern => "Invalid regex: ".toList ++ pattern
  | write fault => "IO error: ".toList ++ fault.message
  | malformedConfig => "TOML parse error: the document is malformed".toList

end HouseStyle
