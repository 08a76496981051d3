/-
This file proves that everything that a valid configuration describes can be built, unless one of
its excluded globs is nested too deep.
-/

import HouseStyle.Proofs.Glob.Nesting
import HouseStyle.Proofs.Result
import HouseStyle.Proofs.Rule.Pattern
import HouseStyle.Config.Validity
import HouseStyle.Linter

namespace HouseStyle

namespace Config

/-- The values of a configuration can be used. -/
structure Valid (config : Config) : Prop where
  extensions : config.scanner.extensions ≠ []
  globs : ∀ pattern ∈ config.scanner.exclude, ∃ glob, Selection.globOfText pattern = .ok glob
  scanned : ∀ extension ∈ config.symbols.extensions,
    ∃ scanned ∈ config.scanner.extensions, sameExtension scanned extension = true
  lineLength : config.lineLength.max ≠ 0
  blockStart : Text.isBlank config.documentation.blockStart = false
  paramTag : Text.isBlank config.documentation.paramTag = false
  output : Text.isBlank config.report.output = false
  expressions : ∀ pattern ∈ config.forbidden.patterns,
    ∃ expression, Forbidden.Pattern.ofText pattern = .ok expression

/-- The excluded globs are not nested too deep. A valid configuration may have one that is. -/
def GlobsCompile (config : Config) : Prop :=
  ∀ pattern ∈ config.scanner.exclude, ∀ glob,
    Selection.globOfText pattern = .ok glob → glob.compiles = true

variable {config : Config}

theorem refuseIf_eq_ok_iff {condition : Bool} {fault : ConfigFault} :
    refuseIf condition fault = .ok () ↔ condition = false := by
  cases condition <;> simp [refuseIf]

/-- The check of a glob accepts what the selection can use. -/
theorem checkGlob_eq_ok_iff {pattern : Text} :
    checkGlob pattern = .ok () ↔ ∃ glob, Selection.globOfText pattern = .ok glob := by
  rw [checkGlob]
  cases Selection.globOfText pattern with
  | error fault => simp [Except.map]
  | ok glob => simp [Except.map]

/-- The check of an expression accepts what the rule of forbidden expressions can use. -/
theorem checkExpression_eq_ok_iff {pattern : Text} :
    checkExpression pattern = .ok () ↔
      ∃ expression, Forbidden.Pattern.ofText pattern = .ok expression := by
  rw [checkExpression, Forbidden.Pattern.ofText]
  cases Regex.ofText? pattern with
  | error fault => simp
  | ok expr => simp

/-- No symbol extension is left out of the scanned ones. -/
theorem unscanned?_eq_none_iff :
    config.unscanned? = none ↔ ∀ extension ∈ config.symbols.extensions,
      ∃ scanned ∈ config.scanner.extensions, sameExtension scanned extension = true := by
  simp [unscanned?]

/-- The checks of the scanner pass if there are extensions, all globs can be read, and all symbol
extensions are scanned. -/
theorem validateScanner_eq_ok_iff :
    config.validateScanner = .ok () ↔ config.scanner.extensions.isEmpty = false ∧
      (∀ pattern ∈ config.scanner.exclude, checkGlob pattern = .ok ()) ∧
      config.unscanned? = none := by
  rw [validateScanner, check_bind_eq_ok_iff, refuseIf_eq_ok_iff, check_bind_eq_ok_iff,
    forM_eq_ok_iff]
  cases config.unscanned? with
  | none => simp
  | some extension => simp

/-- The checks of the rules pass if the length is positive and no required text is blank. -/
theorem validateRules_eq_ok_iff :
    config.validateRules = .ok () ↔ (config.lineLength.max == 0) = false ∧
      Text.isBlank config.documentation.blockStart = false ∧
      Text.isBlank config.documentation.paramTag = false ∧
      Text.isBlank config.report.output = false := by
  rw [validateRules, check_bind_eq_ok_iff, check_bind_eq_ok_iff, check_bind_eq_ok_iff]
  simp only [refuseIf_eq_ok_iff]

/-- The checks of a configuration accept exactly the valid ones. -/
theorem validate_eq_ok_iff : config.validate = .ok () ↔ config.Valid := by
  rw [validate, check_bind_eq_ok_iff, check_bind_eq_ok_iff, forM_eq_ok_iff,
    validateScanner_eq_ok_iff, validateRules_eq_ok_iff, unscanned?_eq_none_iff]
  simp only [checkGlob_eq_ok_iff, checkExpression_eq_ok_iff]
  constructor
  · rintro ⟨⟨extensions, globs, scanned⟩, ⟨lineLength, blockStart, paramTag, output⟩, expressions⟩
    exact { extensions := List.isEmpty_eq_false_iff.mp extensions, globs, scanned
            lineLength := beq_eq_false_iff_ne.mp lineLength
            blockStart, paramTag, output, expressions }
  · intro valid
    exact ⟨⟨List.isEmpty_eq_false_iff.mpr valid.extensions, valid.globs, valid.scanned⟩,
      ⟨beq_eq_false_iff_ne.mpr valid.lineLength, valid.blockStart, valid.paramTag, valid.output⟩,
      valid.expressions⟩

/-- The closing braces of a glob bound its depth. -/
theorem globsCompile_of_count_le
    (few : ∀ pattern ∈ config.scanner.exclude, pattern.count '\x7d' ≤ 81) :
    config.GlobsCompile := by
  intro pattern listed glob built
  rw [Selection.globOfText] at built
  split at built
  next => contradiction
  next read =>
    obtain rfl := Except.ok.inj built
    exact Glob.compiles_of_count_le read (few pattern listed)

/-- A letter in 250 pairs of braces or more does not compile. -/
theorem not_globsCompile_nested {count : Nat} (deep : 250 ≤ count)
    (listed : Glob.nested count ∈ config.scanner.exclude) : ¬ config.GlobsCompile := by
  obtain ⟨glob, read, compiles_iff⟩ := Glob.compiles_nested_iff {} count
  intro compile
  have built : Selection.globOfText (Glob.nested count) = .ok glob := by
    rw [Selection.globOfText, read]
  exact Nat.not_lt_of_le deep (compiles_iff.mp (compile _ listed glob built))

namespace Valid

/-- A valid configuration selects files, unless one of its excluded globs does not compile. Then the
error names all of them. -/
theorem selection_eq (valid : config.Valid) :
    (config.GlobsCompile ∧ ∃ selection, Selection.ofConfig config.scanner = .ok selection) ∨
      (¬ config.GlobsCompile ∧ Selection.ofConfig config.scanner =
        .error (.invalidGlob (List.intercalate ", ".toList config.scanner.exclude))) := by
  obtain ⟨excluded, built⟩ := exists_mapM_eq_ok valid.globs
  have compile : config.GlobsCompile ↔ excluded.all Glob.compiles = true := by
    rw [List.all_eq_true]
    constructor
    · intro compile glob member
      obtain ⟨pattern, listed, read⟩ := (mem_iff_of_mapM built).mp member
      exact compile pattern listed glob read
    · intro compile pattern listed glob read
      exact compile glob ((mem_iff_of_mapM built).mpr ⟨pattern, listed, read⟩)
  rw [compile, Selection.ofConfig, Selection.ofLists, built]
  cases all : excluded.all Glob.compiles with
  | true =>
      refine .inl ⟨rfl, ?_⟩
      simp only [bind, Except.bind, Selection.compile, all]
      exact ⟨_, rfl⟩
  | false =>
      refine .inr ⟨Bool.false_ne_true, ?_⟩
      simp only [bind, Except.bind, Selection.compile, all]
      rfl

/-- The selection of a valid configuration can be built if and only if its globs compile. -/
theorem exists_selection_iff (valid : config.Valid) :
    (∃ selection, Selection.ofConfig config.scanner = .ok selection) ↔ config.GlobsCompile := by
  obtain ⟨compile, selected⟩ | ⟨deep, refused⟩ := valid.selection_eq
  · exact iff_of_true selected compile
  · refine iff_of_false ?_ deep
    rintro ⟨selection, selected⟩
    rw [refused] at selected
    contradiction

/-- If one of the globs does not compile, the error names all of them. -/
theorem selection_of_not_globsCompile (valid : config.Valid) (deep : ¬ config.GlobsCompile) :
    Selection.ofConfig config.scanner =
      .error (.invalidGlob (List.intercalate ", ".toList config.scanner.exclude)) := by
  obtain ⟨compile, -⟩ | ⟨-, refused⟩ := valid.selection_eq
  · exact absurd compile deep
  · exact refused

/-- The forbidden expressions of a valid configuration were checked before, and the expression of
its tag needs no check. -/
theorem exists_linter (valid : config.Valid) :
    ∃ linter, Linter.ofConfig config = .ok linter := by
  obtain ⟨patterns, built⟩ := exists_mapM_eq_ok valid.expressions
  have forbidden : Rule.forbiddenRules config.forbidden =
      .ok (Rule.enabled (!patterns.isEmpty) (.forbidden patterns)) := by
    rw [Rule.forbiddenRules, built]
    rfl
  obtain ⟨rules, documentation⟩ :
      ∃ rules, Rule.documentationRules config.documentation = .ok rules := by
    rw [Rule.documentationRules, Documentation.ofConfig_eq_ok]
    cases config.documentation.enabled with
    | true => exact ⟨_, rfl⟩
    | false => exact ⟨_, rfl⟩
  rw [Linter.ofConfig, Rule.ofConfig, documentation, forbidden]
  exact ⟨_, rfl⟩

end Valid

end Config

end HouseStyle
