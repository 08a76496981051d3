/-
This file proves that the options of a command line keep a configuration valid, unless one of them is
invalid itself.
-/

import Mathlib.Control.Monad.Basic
import HouseStyle.Proofs.Command.Reading
import HouseStyle.Proofs.Config.Validity

namespace HouseStyle

namespace GivenOptions

variable {given next : GivenOptions}

/-- An option that may be given once is stored as the kind that is read from its value. -/
theorem once_eq_ok {Kind : Type} {old : Option Kind} {read : Text → Except UsageFault Kind}
    {value : Text} {update : Kind → GivenOptions} (stored : once old read value update = .ok next) :
    ∃ kind, update kind = next := by
  rw [once] at stored
  split at stored
  next => contradiction
  next =>
    obtain ⟨kind, _, same⟩ := map_eq_ok_iff.mp stored
    exact ⟨kind, same⟩

/-- A switch that may be given once is stored as it is. -/
theorem switch_eq_ok {old : Bool} {new : GivenOptions} (marked : switch old new = .ok next) :
    new = next := by
  rw [switch] at marked
  split at marked
  next => contradiction
  next => exact Except.ok.inj marked

/-- Every value of the option for extensions has at least one piece. -/
theorem kept_extensions : Kept fun given => given.extensions ≠ some [] where
  start := by simp
  store := by
    intro given next value name filled stored
    cases name with
    | color | config | maxLineLength | format | output | operand =>
        obtain ⟨kind, rfl⟩ := once_eq_ok stored
        exact filled
    | extensions =>
        obtain rfl := Except.ok.inj stored
        simp [List.splitOn_ne_nil]
    | verbose | quiet | noConfig | exclude | noReport | force | help | version =>
        obtain rfl := Except.ok.inj stored
        exact filled
  mark := by
    intro given next name filled marked
    cases name with
    | quiet | noConfig | noReport | force =>
        obtain rfl := switch_eq_ok marked
        exact filled
    | help | version => contradiction
    | verbose | color | config | extensions | maxLineLength | exclude | format | output | operand =>
        obtain rfl := Except.ok.inj marked
        exact filled

end GivenOptions

namespace CommandLine

variable {arguments : List Text} {given : GivenOptions} {options : CheckOptions}

/-- The extensions of a check are not an empty list if they are given. -/
theorem extensions_of_readCheck (read : readCheck arguments = .ok (given, .check options)) :
    options.extensions ≠ some [] := by
  obtain ⟨found, foundRead, rest⟩ := bind_eq_ok_iff.mp read
  have filled := GivenOptions.kept_extensions.readOptions foundRead
  split at rest
  next => contradiction
  next =>
    obtain ⟨_, same⟩ := Prod.mk.inj (Except.ok.inj rest)
    rw [← Command.check.inj same]
    exact filled

/-- The command of a level is read by the reader of its commands. -/
theorem exists_readCommand {level : Level} {readCommand : Text → List Text → Result}
    {command : Command} (read : readLevel level readCommand arguments = .ok (given, command)) :
    ∃ name rest inner, readCommand name rest = .ok (inner, command) := by
  obtain ⟨⟨reading, rest⟩, _, later⟩ := bind_eq_ok_iff.mp read
  cases rest with
  | nil =>
      obtain ⟨_, _, failed⟩ := bind_eq_ok_iff.mp later
      contradiction
  | cons name rest =>
      obtain ⟨⟨inner, found⟩, commandRead, done⟩ := bind_eq_ok_iff.mp later
      obtain ⟨outer, _, same⟩ := bind_eq_ok_iff.mp done
      obtain ⟨_, rfl⟩ := Prod.mk.inj (Except.ok.inj same)
      exact ⟨name, rest, inner, commandRead⟩

/-- None of the commands for configurations is a check. -/
theorem readConfigCommand_ne_check {name : Text} :
    readConfigCommand name arguments ≠ .ok (given, .check options) := by
  intro read
  rw [readConfigCommand] at read
  split at read
  next =>
    obtain ⟨_, _, same⟩ := bind_eq_ok_iff.mp read
    cases same
  next =>
    split at read
    next =>
      obtain ⟨_, _, same⟩ := bind_eq_ok_iff.mp read
      cases same
    next => contradiction

/-- Only the command with this name is a check. -/
theorem readCheck_of_readCommand {name : Text}
    (read : readCommand name arguments = .ok (given, .check options)) :
    readCheck arguments = .ok (given, .check options) := by
  rw [readCommand] at read
  split at read
  next => exact read
  next =>
    split at read
    next =>
      obtain ⟨found, _, rest⟩ := bind_eq_ok_iff.mp read
      split at rest <;> cases rest
    next =>
      split at read
      next =>
        obtain ⟨_, _, same⟩ := bind_eq_ok_iff.mp read
        cases same
      next =>
        split at read
        next =>
          obtain ⟨_, _, _, configRead⟩ := exists_readCommand read
          exact absurd configRead readConfigCommand_ne_check
        next => contradiction

/-- The list of extensions of a check is not empty if it is given. -/
theorem extensions_of_ofArguments {line : CommandLine} (read : ofArguments arguments = .ok line)
    (isCheck : line.command = .check options) : options.extensions ≠ some [] := by
  obtain ⟨⟨given, command⟩, levelRead, done⟩ := bind_eq_ok_iff.mp read
  obtain rfl := Except.ok.inj done
  obtain rfl : command = .check options := isCheck
  obtain ⟨_, _, _, commandRead⟩ := exists_readCommand levelRead
  exact extensions_of_readCheck (readCheck_of_readCommand commandRead)

end CommandLine

namespace CheckOptions

variable {config : Config} {options : CheckOptions}

/-- The symbol extensions that are kept are those that are scanned. -/
theorem mem_keptExtensions_iff {scanned symbols : List Text} {extension : Text} :
    extension ∈ keptExtensions scanned symbols ↔
      extension ∈ symbols ∧ ∃ other ∈ scanned, Config.sameExtension other extension = true := by
  simp [keptExtensions, Config.sameExtension]

/-- A list of extensions that replaces the configured one takes the symbol extensions with it. -/
theorem unscanned?_apply (scanned : config.unscanned? = none) (options : CheckOptions) :
    (options.apply config).unscanned? = none := by
  rw [Config.unscanned?_eq_none_iff] at scanned ⊢
  intro extension member
  cases given : options.extensions with
  | none =>
      simp only [apply, given, Option.getD_none] at member ⊢
      exact scanned extension member
  | some extensions =>
      simp only [apply, given, Option.getD_some] at member ⊢
      exact (mem_keptExtensions_iff.mp member).2

/-- A valid configuration stays valid if and only if the given values are valid themselves. -/
theorem valid_apply_iff (valid : config.Valid) (filled : options.extensions ≠ some []) :
    (options.apply config).Valid ↔ options.maxLineLength ≠ some 0 ∧
      (∀ pattern ∈ options.exclude, ∃ glob, Selection.globOfText pattern = .ok glob) ∧
      ∀ output ∈ options.output, Text.isBlank output = false := by
  constructor
  · intro applied
    refine ⟨?_, ?_, ?_⟩
    · intro zero
      exact applied.lineLength (by simp [apply, zero])
    · intro pattern member
      exact applied.globs pattern (List.mem_append_right _ member)
    · intro output given
      have notBlank := applied.output
      rw [Option.mem_def] at given
      simpa [apply, given] using notBlank
  · rintro ⟨positive, globs, notBlank⟩
    have scanned := unscanned?_apply (Config.unscanned?_eq_none_iff.mpr valid.scanned) options
    exact {
      extensions := by
        show options.extensions.getD config.scanner.extensions ≠ []
        cases given : options.extensions with
        | none => exact valid.extensions
        | some extensions => exact fun empty => filled (given.trans (congrArg some empty))
      globs := fun pattern member =>
        (List.mem_append.mp member).elim (valid.globs pattern) (globs pattern)
      scanned := Config.unscanned?_eq_none_iff.mp scanned
      lineLength := by
        show options.maxLineLength.getD config.lineLength.max ≠ 0
        cases given : options.maxLineLength with
        | none => exact valid.lineLength
        | some max => exact fun zero => positive (given.trans (congrArg some zero))
      blockStart := valid.blockStart
      paramTag := valid.paramTag
      output := by
        show Text.isBlank (options.output.getD config.report.output) = false
        cases given : options.output with
        | none => exact valid.output
        | some output => exact notBlank output given
      expressions := valid.expressions }

/-- The options of a check keep a valid configuration valid if and only if the length limit is not
zero, the patterns are globs and the report file is not blank. The check of the symbol extensions
passes whatever extensions are given. -/
theorem validate_apply_iff (valid : config.validate = .ok ()) {arguments : List Text}
    {line : CommandLine} (read : CommandLine.ofArguments arguments = .ok line)
    (isCheck : line.command = .check options) :
    ((options.apply config).validate = .ok () ↔ options.maxLineLength ≠ some 0 ∧
      (∀ pattern ∈ options.exclude, ∃ glob, Selection.globOfText pattern = .ok glob) ∧
      ∀ output ∈ options.output, Text.isBlank output = false) ∧
    ∀ extensions, (({ options with extensions } : CheckOptions).apply config).unscanned? = none := by
  have isValid := Config.validate_eq_ok_iff.mp valid
  refine ⟨?_, fun extensions => ?_⟩
  · rw [Config.validate_eq_ok_iff]
    exact valid_apply_iff isValid (CommandLine.extensions_of_ofArguments read isCheck)
  · exact unscanned?_apply (Config.unscanned?_eq_none_iff.mpr isValid.scanned) _

/-- Extensions may be written with dots, in capital letters, empty, and over several options. -/
theorem validate_apply_iff_extensions :
    let config : Config := { symbols := { extensions := [".Cpp".toList] } }
    let options : CheckOptions :=
      { extensions := some [".CPP".toList, [], "zz".toList, "cpp".toList]
        exclude := ["gen/*".toList]
        output := some "r.txt".toList }
    config.validate = .ok () ∧
      CommandLine.ofArguments ["check".toList, "--ext".toList, ".CPP,,zz".toList, "-x".toList,
        "gen/*".toList, "--ext=cpp".toList, "-or.txt".toList] = .ok { command := .check options } ∧
      (options.apply config).validate = .ok () ∧
      (options.apply config).symbols.extensions = [".Cpp".toList] := by
  intro config options
  have valid : config.validate = .ok () := by decide +kernel
  have read : CommandLine.ofArguments ["check".toList, "--ext".toList, ".CPP,,zz".toList,
      "-x".toList, "gen/*".toList, "--ext=cpp".toList, "-or.txt".toList] =
      .ok { command := .check options } := by decide +kernel
  have globs : ∀ pattern ∈ options.exclude, ∃ glob, Selection.globOfText pattern = .ok glob := by
    simp only [options, List.mem_singleton, forall_eq]
    exact ⟨_, rfl⟩
  exact ⟨valid, read, (validate_apply_iff valid read rfl).1.mpr ⟨by decide, globs, by decide⟩,
    by decide⟩

end CheckOptions

end HouseStyle
