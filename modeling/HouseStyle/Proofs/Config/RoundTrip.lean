/-
This file proves that a configuration is loaded back from its written form, and each part of it from
the written form of this part.
-/

import HouseStyle.Program
import HouseStyle.Proofs.Config.Document

namespace HouseStyle

open Toml (Value Entries)

/-- The section with only the settings whose names are kept. -/
def Section.keeping (keep : Text → Bool) (part : Section) : Section :=
  { part with settings := part.settings.filter fun entry => keep entry.1 }

def ScannerConfig.restrict (keep : Text → Bool) (config : ScannerConfig) : ScannerConfig :=
  let default : ScannerConfig := {}
  { root := if keep "root".toList then config.root else default.root
    extensions := if keep "extensions".toList then config.extensions else default.extensions
    exclude := if keep "exclude".toList then config.exclude else default.exclude
    gitignore := if keep "gitignore".toList then config.gitignore else default.gitignore }

def SymbolsConfig.restrict (keep : Text → Bool) (config : SymbolsConfig) : SymbolsConfig :=
  let default : SymbolsConfig := {}
  { extensions := if keep "extensions".toList then config.extensions else default.extensions
    frameworks :=
      if keep "framework_prefixes".toList then config.frameworks else default.frameworks }

def OrderingConfig.restrict (keep : Text → Bool) (config : OrderingConfig) : OrderingConfig :=
  let default : OrderingConfig := {}
  { enabled := if keep "enabled".toList then config.enabled else default.enabled
    exceptions := if keep "exceptions".toList then config.exceptions else default.exceptions
    constructors :=
      if keep "constructors".toList then config.constructors else default.constructors }

def DocumentationConfig.restrict (keep : Text → Bool) (config : DocumentationConfig) :
    DocumentationConfig :=
  let default : DocumentationConfig := {}
  { enabled := if keep "enabled".toList then config.enabled else default.enabled
    blockStart := if keep "block_start".toList then config.blockStart else default.blockStart
    paramTag := if keep "param_tag".toList then config.paramTag else default.paramTag }

def SpacingConfig.restrict (keep : Text → Bool) (config : SpacingConfig) : SpacingConfig :=
  let default : SpacingConfig := {}
  { enabled := if keep "enabled".toList then config.enabled else default.enabled
    minBlankLines :=
      if keep "min_blank_lines".toList then config.minBlankLines else default.minBlankLines }

def LineLengthConfig.restrict (keep : Text → Bool) (config : LineLengthConfig) : LineLengthConfig :=
  let default : LineLengthConfig := {}
  { enabled := if keep "enabled".toList then config.enabled else default.enabled
    max := if keep "max".toList then config.max else default.max }

def ForbiddenConfig.restrict (keep : Text → Bool) (config : ForbiddenConfig) : ForbiddenConfig :=
  let default : ForbiddenConfig := {}
  { patterns := if keep "patterns".toList then config.patterns else default.patterns }

def ReportConfig.restrict (keep : Text → Bool) (config : ReportConfig) : ReportConfig :=
  let default : ReportConfig := {}
  { exclude := if keep "exclude".toList then config.exclude else default.exclude
    output := if keep "output".toList then config.output else default.output }

/-- The settings that are kept have the values of the configuration, and all others have their
default values. -/
def Config.restrict (keep : Text → Text → Bool) (config : Config) : Config where
  scanner := config.scanner.restrict (keep "scanner".toList)
  symbols := config.symbols.restrict (keep "symbols".toList)
  ordering := config.ordering.restrict (keep "ordering".toList)
  documentation := config.documentation.restrict (keep "documentation".toList)
  spacing := config.spacing.restrict (keep "spacing".toList)
  lineLength := config.lineLength.restrict (keep "line_length".toList)
  forbidden := config.forbidden.restrict (keep "forbidden".toList)
  report := config.report.restrict (keep "report".toList)

/-- The written configuration with only the settings that are kept. All headers stay, with any
number of empty lines between the sections. -/
def Config.tomlKeeping (gaps : Nat) (keep : Text → Text → Bool) (config : Config) : Text :=
  Section.tomlApart gaps (config.sections.map fun part => part.keeping (keep part.name))

namespace Section

/-- A section stays plain if some of its settings are left out. -/
theorem IsPlain.keeping {part : Section} (plain : part.IsPlain) (keep : Text → Bool) :
    (part.keeping keep).IsPlain where
  bareName := plain.bareName
  bareKeys key member := plain.bareKeys key <|
    ((List.filter_sublist (l := part.settings)).map Prod.fst).subset member
  distinct := plain.distinct.sublist ((List.filter_sublist (l := part.settings)).map Prod.fst)

/-- A setting that is kept is looked up as before, and one that is left out is not found. -/
theorem lookup_filter (keep : Text → Bool) (settings : List (Text × Setting)) (name : Text) :
    (settings.filter fun entry => keep entry.1).lookup name =
      if keep name then settings.lookup name else none := by
  induction settings with
  | nil => simp
  | cons entry settings inductionHypothesis =>
      obtain ⟨key, setting⟩ := entry
      by_cases same : name = key
      · subst same
        cases kept : keep name <;> simp [kept, inductionHypothesis]
      · have different : (name == key) = false := by simpa using same
        cases kept : keep key <;> simp [List.lookup_cons, kept, different, inductionHypothesis]

/-- The entries of a section have the values of its settings. -/
theorem lookup_entries (part : Section) (name : Text) :
    part.entries.lookup name = (part.settings.lookup name).map Setting.value := by
  rw [entries]
  induction part.settings with
  | nil => rfl
  | cons entry settings inductionHypothesis =>
      obtain ⟨key, setting⟩ := entry
      by_cases same : name = key
      · simp [same]
      · have different : (name == key) = false := by simpa using same
        simp [List.lookup_cons, different, inductionHypothesis]

/-- A setting that is kept has its written value, and every other setting has its default value. -/
theorem setting_keeping {Kind : Type} (part : Section) (name : String)
    (read : Value → Option Kind) {stored : Setting} {value : Kind}
    (found : part.settings.lookup name.toList = some stored)
    (reads : read stored.value = some value) (keep : Text → Bool) (default : Kind) :
    setting read default name (part.keeping keep).entries =
      some (if keep name.toList then value else default) := by
  rw [setting, lookup_entries, keeping, lookup_filter, found]
  cases keep name.toList <;> simp [reads]

/-- A section has no other names than its own. -/
theorem entries?_keeping (part : Section) (keep : Text → Bool) (origin : Toml.Origin) :
    entries? part.names (.table origin (part.keeping keep).entries) =
      some (part.keeping keep).entries := by
  rw [entries?, if_pos]
  simp only [entries, keeping, names, List.all_map, List.all_eq_true, List.mem_filter, and_imp]
  intro entry member _
  simpa using ⟨entry.2, member⟩

end Section

/-- A list of texts is read back from its value. -/
theorem Setting.texts?_value (values : List Text) :
    Setting.texts? (Setting.texts values).value = some values := by
  simp only [Setting.texts?, Setting.value, Setting.items?, Option.bind_some]
  induction values with
  | nil => rfl
  | cons value values inductionHypothesis => simp [Setting.text?, inductionHypothesis]

/-- A number below the limit is read back from its value. -/
theorem Setting.count?_value {value : Nat} (small : value < Text.numberLimit) :
    Setting.count? (Setting.number value).value = some value := by
  simp only [Setting.count?, Setting.value]
  exact if_pos small

theorem SpecialPlacement.ofValue?_name (placement : SpecialPlacement) :
    SpecialPlacement.ofValue? (Setting.text placement.name).value = some placement := by
  cases placement <;> rfl

/-- Settings of the scanner that are left out have their default values. -/
theorem ScannerConfig.ofValue?_keeping (config : ScannerConfig) (keep : Text → Bool)
    (origin : Toml.Origin) :
    ofValue? (.table origin ((Config.scannerSection config).keeping keep).entries) =
      some (config.restrict keep) := by
  have entries := (Config.scannerSection config).entries?_keeping keep origin
  have names : (Config.scannerSection {}).names = (Config.scannerSection config).names := rfl
  have setting {Kind : Type} := @Section.setting_keeping Kind (Config.scannerSection config)
  simp only [ofValue?, names, entries, Option.bind_eq_bind, Option.bind_some,
    setting "root" Setting.text? rfl rfl,
    setting "extensions" Setting.texts? rfl (Setting.texts?_value _),
    setting "exclude" Setting.texts? rfl (Setting.texts?_value _),
    setting "gitignore" Setting.flag? rfl rfl]
  rfl

/-- Settings for symbols that are left out have their default values. -/
theorem SymbolsConfig.ofValue?_keeping (config : SymbolsConfig) (keep : Text → Bool)
    (origin : Toml.Origin) :
    ofValue? (.table origin ((Config.symbolsSection config).keeping keep).entries) =
      some (config.restrict keep) := by
  have entries := (Config.symbolsSection config).entries?_keeping keep origin
  have names : (Config.symbolsSection {}).names = (Config.symbolsSection config).names := rfl
  have setting {Kind : Type} := @Section.setting_keeping Kind (Config.symbolsSection config)
  simp only [ofValue?, names, entries, Option.bind_eq_bind, Option.bind_some,
    setting "extensions" Setting.texts? rfl (Setting.texts?_value _),
    setting "framework_prefixes" Setting.texts? rfl (Setting.texts?_value _)]
  rfl

/-- Settings for the order that are left out have their default values. -/
theorem OrderingConfig.ofValue?_keeping (config : OrderingConfig) (keep : Text → Bool)
    (origin : Toml.Origin) :
    ofValue? (.table origin ((Config.orderingSection config).keeping keep).entries) =
      some (config.restrict keep) := by
  have entries := (Config.orderingSection config).entries?_keeping keep origin
  have names : (Config.orderingSection {}).names = (Config.orderingSection config).names := rfl
  have setting {Kind : Type} := @Section.setting_keeping Kind (Config.orderingSection config)
  simp only [ofValue?, names, entries, Option.bind_eq_bind, Option.bind_some,
    setting "enabled" Setting.flag? rfl rfl,
    setting "exceptions" Setting.texts? rfl (Setting.texts?_value _),
    setting "constructors" SpecialPlacement.ofValue? rfl (SpecialPlacement.ofValue?_name _)]
  rfl

/-- Settings for documentation that are left out have their default values. -/
theorem DocumentationConfig.ofValue?_keeping (config : DocumentationConfig) (keep : Text → Bool)
    (origin : Toml.Origin) :
    ofValue? (.table origin ((Config.documentationSection config).keeping keep).entries) =
      some (config.restrict keep) := by
  have entries := (Config.documentationSection config).entries?_keeping keep origin
  have names : (Config.documentationSection {}).names =
      (Config.documentationSection config).names := rfl
  have setting {Kind : Type} := @Section.setting_keeping Kind (Config.documentationSection config)
  simp only [ofValue?, names, entries, Option.bind_eq_bind, Option.bind_some,
    setting "enabled" Setting.flag? rfl rfl,
    setting "block_start" Setting.text? rfl rfl,
    setting "param_tag" Setting.text? rfl rfl]
  rfl

/-- Settings for spacing that are left out have their default values. -/
theorem SpacingConfig.ofValue?_keeping (config : SpacingConfig)
    (small : config.minBlankLines < Text.numberLimit) (keep : Text → Bool)
    (origin : Toml.Origin) :
    ofValue? (.table origin ((Config.spacingSection config).keeping keep).entries) =
      some (config.restrict keep) := by
  have entries := (Config.spacingSection config).entries?_keeping keep origin
  have names : (Config.spacingSection {}).names = (Config.spacingSection config).names := rfl
  have setting {Kind : Type} := @Section.setting_keeping Kind (Config.spacingSection config)
  simp only [ofValue?, names, entries, Option.bind_eq_bind, Option.bind_some,
    setting "enabled" Setting.flag? rfl rfl,
    setting "min_blank_lines" Setting.count? rfl (Setting.count?_value small)]
  rfl

/-- Settings for the length of lines that are left out have their default values. -/
theorem LineLengthConfig.ofValue?_keeping (config : LineLengthConfig)
    (small : config.max < Text.numberLimit) (keep : Text → Bool)
    (origin : Toml.Origin) :
    ofValue? (.table origin ((Config.lineLengthSection config).keeping keep).entries) =
      some (config.restrict keep) := by
  have entries := (Config.lineLengthSection config).entries?_keeping keep origin
  have names : (Config.lineLengthSection {}).names = (Config.lineLengthSection config).names := rfl
  have setting {Kind : Type} := @Section.setting_keeping Kind (Config.lineLengthSection config)
  simp only [ofValue?, names, entries, Option.bind_eq_bind, Option.bind_some,
    setting "enabled" Setting.flag? rfl rfl,
    setting "max" Setting.count? rfl (Setting.count?_value small)]
  rfl

/-- Forbidden patterns that are left out have their default value. -/
theorem ForbiddenConfig.ofValue?_keeping (config : ForbiddenConfig) (keep : Text → Bool)
    (origin : Toml.Origin) :
    ofValue? (.table origin ((Config.forbiddenSection config).keeping keep).entries) =
      some (config.restrict keep) := by
  have entries := (Config.forbiddenSection config).entries?_keeping keep origin
  have names : (Config.forbiddenSection {}).names = (Config.forbiddenSection config).names := rfl
  have setting {Kind : Type} := @Section.setting_keeping Kind (Config.forbiddenSection config)
  simp only [ofValue?, names, entries, Option.bind_eq_bind, Option.bind_some,
    setting "patterns" Setting.texts? rfl (Setting.texts?_value _)]
  rfl

/-- Settings for the report that are left out have their default values. -/
theorem ReportConfig.ofValue?_keeping (config : ReportConfig) (keep : Text → Bool)
    (origin : Toml.Origin) :
    ofValue? (.table origin ((Config.reportSection config).keeping keep).entries) =
      some (config.restrict keep) := by
  have entries := (Config.reportSection config).entries?_keeping keep origin
  have names : (Config.reportSection {}).names = (Config.reportSection config).names := rfl
  have setting {Kind : Type} := @Section.setting_keeping Kind (Config.reportSection config)
  simp only [ofValue?, names, entries, Option.bind_eq_bind, Option.bind_some,
    setting "exclude" Setting.texts? rfl (Setting.texts?_value _),
    setting "output" Setting.text? rfl rfl]
  rfl

namespace Config

/-- The entries that the kept settings stand for. -/
def entriesKeeping (keep : Text → Text → Bool) (config : Config) : Entries :=
  (config.sections.map fun part => part.keeping (keep part.name)).map fun part =>
    (part.name, .table .header part.entries)

/-- All sections together are read back, with default values for what is left out. -/
theorem ofValue?_entriesKeeping (config : Config)
    (spacing : config.spacing.minBlankLines < Text.numberLimit)
    (lineLength : config.lineLength.max < Text.numberLimit) (keep : Text → Text → Bool) :
    ofValue? (.table .header (config.entriesKeeping keep)) = some (config.restrict keep) := by
  have entries : Section.entries? sectionNames (.table .header (config.entriesKeeping keep)) =
      some (config.entriesKeeping keep) := rfl
  have setting {Kind : Type} (name : String) {read : Value → Option Kind} {default : Kind}
      {value : Value} {result : Kind}
      (found : (config.entriesKeeping keep).lookup name.toList = some value)
      (reads : read value = some result) :
      Section.setting read default name (config.entriesKeeping keep) = some result := by
    rw [Section.setting, found]
    exact reads
  simp only [ofValue?, entries, Option.bind_eq_bind, Option.bind_some,
    setting "scanner" rfl (ScannerConfig.ofValue?_keeping _ _ _),
    setting "symbols" rfl (SymbolsConfig.ofValue?_keeping _ _ _),
    setting "ordering" rfl (OrderingConfig.ofValue?_keeping _ _ _),
    setting "documentation" rfl (DocumentationConfig.ofValue?_keeping _ _ _),
    setting "spacing" rfl (SpacingConfig.ofValue?_keeping _ spacing _ _),
    setting "line_length" rfl (LineLengthConfig.ofValue?_keeping _ lineLength _ _),
    setting "forbidden" rfl (ForbiddenConfig.ofValue?_keeping _ _ _),
    setting "report" rfl (ReportConfig.ofValue?_keeping _ _ _)]
  rfl

def isBareKey (name : Text) : Bool :=
  !name.isEmpty && name.all Toml.isKeyChar

/-- A section is plain if its names are distinct bare keys. -/
theorem isPlain_of {part : Section} (bare : (part.name :: part.names).all isBareKey = true)
    (distinct : decide part.names.Nodup = true) : part.IsPlain := by
  have keys : ∀ key ∈ part.name :: part.names, Toml.IsBareKey key := by
    simpa [isBareKey, Toml.IsBareKey, List.all_eq_true] using bare
  exact ⟨keys _ List.mem_cons_self, fun key member => keys key (List.mem_cons_of_mem _ member),
    of_decide_eq_true distinct⟩

/-- All sections of a configuration are plain. -/
theorem isPlain_of_mem_sections {config : Config} {part : Section}
    (member : part ∈ config.sections) :
    part.IsPlain := by
  simp only [sections, List.mem_cons, List.not_mem_nil, or_false] at member
  rcases member with rfl | rfl | rfl | rfl | rfl | rfl | rfl | rfl
  all_goals exact isPlain_of rfl rfl

/-- A document with some settings of a configuration is read back with these settings. -/
theorem ofText_tomlKeeping (config : Config)
    (spacing : config.spacing.minBlankLines < Text.numberLimit)
    (lineLength : config.lineLength.max < Text.numberLimit) (gaps : Nat)
    (keep : Text → Text → Bool) :
    ofText (config.tomlKeeping gaps keep) = .ok (config.restrict keep) := by
  have plain : ∀ part ∈ config.sections.map fun part => part.keeping (keep part.name),
      part.IsPlain := by
    intro part member
    obtain ⟨whole, source, rfl⟩ := List.mem_map.mp member
    exact (isPlain_of_mem_sections source).keeping _
  have read : Toml.read (config.tomlKeeping gaps keep) = some (config.entriesKeeping keep) :=
    Toml.read_tomlApart gaps plain (of_decide_eq_true rfl)
  rw [ofText, read]
  simp only [Option.bind_some, ofValue?_entriesKeeping config spacing lineLength keep]

/-- The whole written configuration keeps every setting. -/
theorem tomlKeeping_all (config : Config) :
    (config.tomlKeeping 1 fun _ _ => true) = config.toml := by
  have whole (part : Section) : part.keeping (fun _ => true) = part := by
    rw [Section.keeping, List.filter_eq_self.mpr fun _ _ => rfl]
  simp only [tomlKeeping, whole, List.map_id']
  rfl

theorem restrict_all (config : Config) : (config.restrict fun _ _ => true) = config := rfl

/-- The largest signed number with 64 bits. -/
def numberBound : Nat := 0x7FFFFFFFFFFFFFFF

/-- A file with some of the written settings gives these settings back, and the default values of
all others. The whole written configuration gives the configuration back. -/
theorem loadFile_tomlKeeping (config : Config)
    (spacing : config.spacing.minBlankLines ≤ numberBound)
    (lineLength : config.lineLength.max ≤ numberBound) (find : Path → Finding) (path : Path) :
    (∀ gaps keep, find path = .text (config.tomlKeeping gaps keep) →
      loadFile find path = .ok (config.restrict keep)) ∧
    (find path = .text (Program.shown .text config) → loadFile find path = .ok config) := by
  have bound : numberBound < Text.numberLimit := by decide
  have loaded (gaps : Nat) (keep : Text → Text → Bool)
      (stored : find path = .text (config.tomlKeeping gaps keep)) :
      loadFile find path = .ok (config.restrict keep) := by
    rw [loadFile, stored, if_neg (by simp)]
    exact ofText_tomlKeeping config (Nat.lt_of_le_of_lt spacing bound)
      (Nat.lt_of_le_of_lt lineLength bound) gaps keep
  refine ⟨loaded, fun stored => ?_⟩
  rw [Program.shown, ← tomlKeeping_all] at stored
  rw [loaded 1 _ stored, restrict_all]

/-- Quotes, line feeds and control characters survive, and so does a missing setting. -/
theorem loadFile_tomlKeeping_escapes :
    let config : Config :=
      { scanner := { root := "a\"\"\"b'\n\\\x01".toList, extensions := [] }
        lineLength := { max := numberBound } }
    let keep : Text → Text → Bool := fun _ name => name = "root".toList
    let file := Finding.text (config.tomlKeeping 0 keep)
    loadFile (fun _ => file) ['a'] = .ok (config.restrict keep) ∧
      (config.restrict keep).scanner.root = config.scanner.root ∧
      (config.restrict keep).scanner.extensions = ["cpp".toList, "h".toList] ∧
      loadFile (fun _ => .text (Program.shown .text config)) ['a'] = .ok config := by
  intro config keep file
  have spacing : config.spacing.minBlankLines ≤ numberBound := by decide
  have lineLength : config.lineLength.max ≤ numberBound := by decide
  exact ⟨(loadFile_tomlKeeping config spacing lineLength (fun _ => file) ['a']).1 0 keep rfl,
    by decide, by decide,
    (loadFile_tomlKeeping config spacing lineLength _ ['a']).2 rfl⟩

end Config

end HouseStyle
