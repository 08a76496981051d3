/-
This file proves where the problems of a file stand and in which order a linter lists them.
-/

import HouseStyle.Proofs.Result
import HouseStyle.Proofs.Rule.Sequence
import HouseStyle.Proofs.Rule.Tag

namespace HouseStyle

namespace Rule

theorem enabled_sublist (isEnabled : Bool) (rule : Rule) :
    (enabled isEnabled rule).Sublist [rule] := by
  cases isEnabled with
  | false => exact List.nil_sublist _
  | true => exact List.Sublist.refl _

/-- Documentation has one rule at most. -/
theorem documentationRules_sublist {config : DocumentationConfig} {rules : List Rule}
    (built : documentationRules config = .ok rules) :
    ∃ rule, rules.Sublist [documentation rule] := by
  rw [documentationRules] at built
  split at built
  next =>
    obtain ⟨rule, _, done⟩ := bind_eq_ok_iff.mp built
    obtain rfl := Except.ok.inj done
    exact ⟨rule, List.Sublist.refl _⟩
  next =>
    obtain rfl := Except.ok.inj built
    exact ⟨⟨[], .empty⟩, List.nil_sublist _⟩

/-- Forbidden patterns have one rule at most. -/
theorem forbiddenRules_sublist {config : ForbiddenConfig} {rules : List Rule}
    (built : forbiddenRules config = .ok rules) :
    ∃ patterns, rules.Sublist [forbidden patterns] := by
  obtain ⟨patterns, _, done⟩ := bind_eq_ok_iff.mp built
  obtain rfl := Except.ok.inj done
  exact ⟨patterns, enabled_sublist _ _⟩

/-- The rules of a configuration are some of the five rules, in the order of their problems. -/
theorem ofConfig_sublist {config : Config} {rules : List Rule} (built : ofConfig config = .ok rules) :
    ∃ rule patterns, rules.Sublist [lineLength config.lineLength.max, ordering config.ordering,
      spacing config.spacing.minBlankLines, documentation rule, forbidden patterns] := by
  obtain ⟨documentation, documentationBuilt, built⟩ := bind_eq_ok_iff.mp built
  obtain ⟨forbidden, forbiddenBuilt, built⟩ := bind_eq_ok_iff.mp built
  obtain rfl := Except.ok.inj built
  obtain ⟨rule, documentationSublist⟩ := documentationRules_sublist documentationBuilt
  obtain ⟨patterns, forbiddenSublist⟩ := forbiddenRules_sublist forbiddenBuilt
  exact ⟨rule, patterns, ((((enabled_sublist _ _).append (enabled_sublist _ _)).append
    (enabled_sublist _ _)).append documentationSublist).append forbiddenSublist⟩

/-- The rules of a configuration stand in the order of the places of their problems. -/
theorem ofConfig_ordered {config : Config} {rules : List Rule} (built : ofConfig config = .ok rules) :
    rules.Pairwise fun first second => first.endPlace ≤ second.firstPlace := by
  obtain ⟨rule, patterns, sublist⟩ := ofConfig_sublist built
  apply List.Pairwise.sublist sublist
  simp [firstPlace, endPlace]

end Rule

namespace Linter

/-- A linter is built with the rules of its configuration. -/
theorem ofConfig_eq_ok_iff {config : Config} {linter : Linter} :
    ofConfig config = .ok linter ↔ ∃ rules, Rule.ofConfig config = .ok rules ∧
      linter = { rules
                 symbolExtensions := config.symbols.extensions.map Path.normalizeExtension
                 frameworks := config.symbols.frameworks
                 unreported := config.report.exclude } := by
  rw [ofConfig, bind_eq_ok_iff]
  constructor
  · rintro ⟨rules, built, done⟩
    exact ⟨rules, built, (Except.ok.inj done).symm⟩
  · rintro ⟨rules, built, rfl⟩
    exact ⟨rules, built, rfl⟩

variable {linter : Linter} {path : Path} {text : Text}

/-- The symbols of a file are those of its lines, if it has any. -/
theorem symbols_source (linter : Linter) (path : Path) (text : Text) :
    (linter.source path text).symbols = none ∨
      (linter.source path text).symbols =
        some (Symbols.ofLines linter.frameworks (linter.source path text).lines) := by
  simp only [source]
  split
  next => exact Or.inr rfl
  next => exact Or.inl rfl

/-- A problem of a file is found by one of the rules. -/
theorem mem_check {problem : Problem} (member : problem ∈ linter.check path text) :
    ∃ rule ∈ linter.rules, ∃ found ∈ rule.check (linter.source path text),
      problem = found.inFile path := by
  obtain ⟨found, inRules, rfl⟩ := List.mem_map.mp member
  obtain ⟨rule, inLinter, byRule⟩ := List.mem_flatMap.mp inRules
  exact ⟨rule, inLinter, found, byRule, rfl⟩

/-- The problems of one rule on one text are a stretch of their places. -/
theorem rule_stretch (linter : Linter) (path : Path) (text : Text) (rule : Rule) :
    Problem.Stretch (Symbols.ofText linter.frameworks text).functions (Text.lines text).length
      rule.firstPlace rule.endPlace (rule.check (linter.source path text)) :=
  rule.check_stretch linter.frameworks (linter.symbols_source path text)

/-- The problems of a text are in order, because its rules are. -/
theorem check_pairwise
    (ordered : linter.rules.Pairwise fun first second => first.endPlace ≤ second.firstPlace) :
    (linter.check path text).Pairwise
      (Problem.InOrder (Symbols.ofText linter.frameworks text).functions) := by
  apply List.pairwise_map.mpr
  refine List.pairwise_flatMap.mpr ⟨fun rule _ => (linter.rule_stretch path text rule).inOrder, ?_⟩
  apply ordered.imp
  intro first second apart problem inFirst other inSecond
  have place := ((linter.rule_stretch path text first).places problem inFirst).2
  have otherPlace := ((linter.rule_stretch path text second).places other inSecond).1
  refine Or.inl ?_
  show problem.kind.place < other.kind.place
  omega

/-- The kinds of problems that are found without symbols. -/
def textKinds : List ProblemKind :=
  [.longLine, .crampedCloseBrace, .crampedIncludes, .crampedUsings, .forbiddenToken]

/-- A rule that needs no symbols finds problems of the text only. -/
theorem mem_textKinds {rule : Rule} {kind : ProblemKind} (plain : rule.needsSymbols = false)
    (place : rule.firstPlace ≤ kind.place ∧ kind.place < rule.endPlace) : kind ∈ textKinds := by
  cases rule with
  | ordering | documentation => exact absurd plain Bool.noConfusion
  | lineLength | spacing | forbidden =>
      cases kind <;> simp [Rule.firstPlace, Rule.endPlace, ProblemKind.place, textKinds] at place ⊢

/-- No rule finds that a file cannot be read. -/
theorem ne_unreadableFile {rule : Rule} {kind : ProblemKind} (place : kind.place < rule.endPlace) :
    kind ≠ .unreadableFile := by
  rintro rfl
  cases rule <;> simp [Rule.endPlace, ProblemKind.place] at place

/-- A rule finds only problems with the text in a file without symbols. -/
theorem kind_mem_textKinds {rule : Rule} {found : Problem}
    (noSymbols : (linter.source path text).symbols = none)
    (byRule : found ∈ rule.check (linter.source path text)) : found.kind ∈ textKinds := by
  cases needs : rule.needsSymbols with
  | true =>
      rw [Rule.check_eq_nil_of_symbols needs noSymbols] at byRule
      exact absurd byRule List.not_mem_nil
  | false => exact mem_textKinds needs ((linter.rule_stretch path text rule).places found byRule)

/-- The problems of a file carry its path and stand on its lines. They are listed rule by rule, and
inside a rule from the top of the file to the bottom. A file without symbols has only problems with
its text. -/
theorem check_sequence {config : Config} {linter : Linter} (built : ofConfig config = .ok linter)
    (path : Path) (text : Text) :
    (∀ problem ∈ linter.check path text, problem.path = path ∧ 1 ≤ problem.line ∧
      problem.line ≤ (Text.lines text).length ∧ problem.kind ≠ .unreadableFile) ∧
    (linter.check path text).Pairwise
      (Problem.InOrder (Symbols.ofText config.symbols.frameworks text).functions) ∧
    (Path.hasExtension (config.symbols.extensions.map Path.normalizeExtension) path = false →
      ∀ problem ∈ linter.check path text, problem.kind ∈ textKinds) := by
  obtain ⟨rules, rulesBuilt, shape⟩ := ofConfig_eq_ok_iff.mp built
  refine ⟨?_, ?_, ?_⟩
  · intro problem member
    obtain ⟨rule, _, found, byRule, rfl⟩ := mem_check member
    have stretch := linter.rule_stretch path text rule
    obtain ⟨lower, upper⟩ := stretch.onLines found byRule
    exact ⟨rfl, lower, upper, ne_unreadableFile (stretch.places found byRule).2⟩
  · subst shape
    exact check_pairwise (Rule.ofConfig_ordered rulesBuilt)
  · intro noExtension problem member
    obtain ⟨rule, _, found, byRule, rfl⟩ := mem_check member
    have noSymbols : (linter.source path text).symbols = none := by
      subst shape
      simp [source, noExtension]
    have textual : found.kind ∈ textKinds := kind_mem_textKinds noSymbols byRule
    exact textual

/-- Two functions stand in the wrong order, and the second one has a wrong documentation. -/
theorem check_sequence_two_functions :
    let linter : Linter :=
      { rules := [.lineLength 80, .ordering {}, .spacing 2, .documentation .standard]
        symbolExtensions := ["cpp".toList]
        frameworks := ["allegro".toList]
        unreported := ({} : ReportConfig).exclude }
    let text := "void b();\n/**\n * @param x\n */\nvoid a(int y);\n".toList
    ofConfig {} = .ok linter ∧
    ((linter.check "f.cpp".toList text).map fun problem => (problem.kind, problem.line)) =
      [(.unorderedFunctions, 1), (.missingDocumentation, 1), (.undocumentedParameter, 5),
        (.unknownDocumentedParameter, 5)] ∧
    (linter.check "f.cpp".toList text).Pairwise
      (Problem.InOrder (Symbols.ofText ["allegro".toList] text).functions) ∧
    ∀ problem ∈ linter.check "f.h".toList text, problem.kind ∈ textKinds := by
  intro linter text
  have built : ofConfig {} = .ok linter := rfl
  exact ⟨built, by decide +kernel, (check_sequence built _ text).2.1,
    (check_sequence built "f.h".toList text).2.2 (by decide)⟩

end Linter

end HouseStyle
