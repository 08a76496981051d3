/-
This file reads command lines.
-/

import HouseStyle.Command.Settings

namespace HouseStyle

/-- The ways in which an option is written. -/
structure OptionForm where
  name : OptionName
  long : Text
  short : Option Char
  takesValue : Bool

/-- What may follow the name of a command: options, the names of inner commands, and an operand. -/
structure Level where
  forms : List OptionForm
  commands : List Text := []
  hasOperand : Bool := false

namespace Level

/-- The options of all commands. -/
def commonForms : List OptionForm :=
  [⟨.verbose, "verbose".toList, some 'v', false⟩, ⟨.quiet, "quiet".toList, some 'q', false⟩,
    ⟨.color, "color".toList, none, true⟩, ⟨.noConfig, "no-config".toList, none, false⟩,
    ⟨.help, "help".toList, some 'h', false⟩]

def configForm : OptionForm :=
  ⟨.config, "config".toList, some 'c', true⟩

def formatForm : OptionForm :=
  ⟨.format, "format".toList, some 'f', true⟩

def outputForm : OptionForm :=
  ⟨.output, "output".toList, some 'o', true⟩

/-- The program itself. -/
def program : Level where
  forms := ⟨.version, "version".toList, some 'V', false⟩ :: commonForms
  commands := ["check".toList, "symbols".toList, "init".toList, "config".toList, "help".toList]

def check : Level where
  forms := [configForm, ⟨.extensions, "ext".toList, none, true⟩,
    ⟨.maxLineLength, "max-line-length".toList, none, true⟩,
    ⟨.exclude, "exclude".toList, some 'x', true⟩, formatForm, outputForm,
    ⟨.noReport, "no-report".toList, none, false⟩] ++ commonForms
  hasOperand := true

def symbols : Level where
  forms := configForm :: formatForm :: commonForms
  hasOperand := true

def init : Level where
  forms := outputForm :: ⟨.force, "force".toList, none, false⟩ :: commonForms

def config : Level where
  forms := commonForms
  commands := ["validate".toList, "show".toList, "help".toList]

def validate : Level where
  forms := configForm :: commonForms

def «show» : Level where
  forms := configForm :: formatForm :: commonForms

end Level

/-- The state of the reader at one level. -/
structure Reading where
  given : GivenOptions := {}
  /-- The option that was read last, with its value if there is one. It is stored when the next
  option or operand comes. -/
  pending : Option (OptionName × Option Text) := none
  operandSeen : Bool := false
  /-- Two hyphens were read. No more options follow. -/
  onlyOperands : Bool := false

namespace Reading

/-- This function stores the pending option. -/
def settle (reading : Reading) : Except UsageFault Reading :=
  match reading.pending with
  | none => .ok reading
  | some (_, none) => .error .invalidValue
  | some (name, some value) =>
      (reading.given.store value name).map fun given => { reading with given, pending := none }

def awaitsValue (reading : Reading) : Bool :=
  match reading.pending with
  | some (_, none) => true
  | _ => false

/-- An option that waits for its value. -/
def await (reading : Reading) (name : OptionName) : Except UsageFault Reading :=
  reading.settle.map fun reading => { reading with pending := some (name, none) }

/-- An option with an attached value. -/
def attach (reading : Reading) (name : OptionName) (value : Text) : Except UsageFault Reading := do
  let reading ← reading.settle
  return { reading with given := ← reading.given.store value name }

/-- An option that takes no value. -/
def mark (reading : Reading) (name : OptionName) : Except UsageFault Reading := do
  let reading ← reading.settle
  return { reading with given := ← reading.given.mark name }

/-- A long option may have its value after an equals sign. -/
def readLong (level : Level) (reading : Reading) (argument : Text) : Except UsageFault Reading :=
  let (long, attached) :=
    match Text.cutAt? '=' argument with
    | some (long, value) => (long, some value)
    | none => (argument, none)
  match level.forms.find? (·.long == long), attached with
  | none, _ => .error .unknownArgument
  | some form, some value =>
      if form.takesValue then reading.attach form.name value else .error .unneededValue
  | some form, none =>
      if form.takesValue then reading.await form.name else reading.mark form.name

/-- Several short options may stand together. The rest after an option with a value is its value,
and an equals sign in front of it is dropped. -/
def readShort (level : Level) (reading : Reading) : Text → Except UsageFault Reading
  | [] => .ok reading
  | char :: rest =>
      match level.forms.find? (·.short == some char) with
      | none => .error .unknownArgument
      | some form =>
          if form.takesValue then
            match rest with
            | [] => reading.await form.name
            | '=' :: value => reading.attach form.name value
            | value => reading.attach form.name value
          else
            match reading.mark form.name with
            | .error fault => .error fault
            | .ok reading => readShort level reading rest

/-- A level with commands takes no operand. -/
def refuseOperand (level : Level) (reading : Reading) (argument : Text) : UsageFault :=
  if level.commands.isEmpty || (reading.onlyOperands && level.commands.contains argument) then
    .unknownArgument
  else .unknownCommand

def readOperand (level : Level) (reading : Reading) (argument : Text) :
    Except UsageFault Reading :=
  if level.hasOperand && !reading.operandSeen then
    reading.settle.map fun reading =>
      { reading with pending := some (.operand, some argument), operandSeen := true }
  else .error (reading.refuseOperand level argument)

/-- This function reads one argument that is not the name of a command. -/
def readArgument (level : Level) (reading : Reading) (argument : Text) :
    Except UsageFault Reading :=
  if reading.onlyOperands then reading.readOperand level argument
  else
    match argument, reading.pending with
    | ['-', '-'], _ => .ok { reading with onlyOperands := true }
    | '-' :: '-' :: long, _ => reading.readLong level long
    | '-' :: char :: shorts, _ => reading.readShort level (char :: shorts)
    | _, some (name, none) => .ok { reading with pending := some (name, some argument) }
    | _, _ => reading.readOperand level argument

/-- This function reads arguments up to the name of a command. It gives this name and the arguments
after it as the rest. -/
def readAll (level : Level) (reading : Reading) :
    List Text → Except UsageFault (Reading × List Text)
  | [] => .ok (reading, [])
  | argument :: rest =>
      if !reading.onlyOperands && !reading.awaitsValue && level.commands.contains argument then
        .ok (reading, argument :: rest)
      else
        match reading.readArgument level argument with
        | .error fault => .error fault
        | .ok reading => readAll level reading rest

/-- The options that were given in total. -/
def finish (reading : Reading) : Except UsageFault GivenOptions :=
  reading.settle.map Reading.given

end Reading

namespace CommandLine

/-- The options of a command without inner commands. -/
def readOptions (level : Level) (arguments : List Text) : Except UsageFault GivenOptions := do
  let (reading, _) ← Reading.readAll level {} arguments
  reading.finish

/-- The options and the command of a level. -/
abbrev Result := Except UsageFault (GivenOptions × Command)

def readCheck (arguments : List Text) : Result := do
  let given ← readOptions .check arguments
  if given.noReport && given.output.isSome then throw .conflict
  return (given, .check {
    root := given.operand
    config := given.config
    extensions := given.extensions
    maxLineLength := given.maxLineLength
    exclude := given.exclude
    format := given.format.getD .text
    output := given.output
    noReport := given.noReport })

def readSymbols (arguments : List Text) : Result := do
  let given ← readOptions .symbols arguments
  match given.operand with
  | none => throw .missingOperand
  | some file => return (given, .symbols file given.config (given.format.getD .text))

def readInit (arguments : List Text) : Result := do
  let given ← readOptions .init arguments
  return (given, .init (given.output.getD Config.localName) given.force)

def readValidate (arguments : List Text) : Result := do
  let given ← readOptions .validate arguments
  return (given, .validate (given.config.getD Config.localName))

def readShow (arguments : List Text) : Result := do
  let given ← readOptions .show arguments
  return (given, .show given.config (given.format.getD .text))

/-- The topic of a request for help is a command that exists. `commands` are the commands that may
follow. -/
def readTopic (commands : List Text) : List Text → UsageFault
  | [] => .help
  | topic :: rest =>
      if commands.contains topic then
        readTopic (if topic = "config".toList then Level.config.commands else []) rest
      else .unknownCommand

/-- This function reads the options of a level and then one of its commands. The faults of the
inner command come before those of the last option in front of it. -/
def readLevel (level : Level) (readCommand : Text → List Text → Result)
    (arguments : List Text) : Result := do
  let (reading, rest) ← Reading.readAll level {} arguments
  match rest with
  | [] =>
      let given ← reading.finish
      throw (if given = {} then .nothingGiven else .missingCommand)
  | command :: rest =>
      let (inner, command) ← readCommand command rest
      let outer ← reading.finish
      return (outer.inherit inner, command)

def readConfigCommand (command : Text) (arguments : List Text) : Result :=
  if command = "validate".toList then readValidate arguments
  else if command = "show".toList then readShow arguments
  else .error (readTopic Level.config.commands arguments)

def readCommand (command : Text) (arguments : List Text) : Result :=
  if command = "check".toList then readCheck arguments
  else if command = "symbols".toList then readSymbols arguments
  else if command = "init".toList then readInit arguments
  else if command = "config".toList then readLevel .config readConfigCommand arguments
  else .error (readTopic Level.program.commands arguments)

/-- This function reads the arguments of the program. -/
def ofArguments (arguments : List Text) : Except UsageFault CommandLine := do
  let (given, command) ← readLevel .program readCommand arguments
  return given.commandLine command

end CommandLine

end HouseStyle
