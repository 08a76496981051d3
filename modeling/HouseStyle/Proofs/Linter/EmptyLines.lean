/-
This file proves what a linter finds in a text with additional empty lines at its beginning or at its
end.
-/

import HouseStyle.Proofs.Config.Validity
import HouseStyle.Proofs.Linter.Sequence
import HouseStyle.Proofs.Rule.EmptyLines
import HouseStyle.Proofs.Text.Lines

namespace HouseStyle

namespace Rule

theorem passesEmptyLines_of_enabled (rule : Rule) (passes : rule.PassesEmptyLines)
    (isEnabled : Bool) : ∀ other ∈ enabled isEnabled rule, other.PassesEmptyLines := by
  intro other member
  obtain rfl := List.mem_singleton.mp ((enabled_sublist isEnabled rule).subset member)
  exact passes

/-- The beginning of a block is not blank, so an empty line does not start one. -/
theorem passesEmptyLines_of_documentationRules {config : DocumentationConfig}
    (filled : Text.isBlank config.blockStart = false) {rules : List Rule}
    (built : documentationRules config = .ok rules) : ∀ rule ∈ rules, rule.PassesEmptyLines := by
  rw [documentationRules, Documentation.ofConfig_eq_ok] at built
  have passes (expression : Regex) :
      (documentation ⟨Text.trim config.blockStart, expression⟩).PassesEmptyLines := by
    obtain ⟨char, rest, shape⟩ := List.exists_cons_of_ne_nil (Text.trim_ne_nil filled)
    simp [PassesEmptyLines, Documentation.startsBlock, shape, Text.trimStart]
  split at built
  next =>
    obtain rfl := Except.ok.inj built
    simpa using passes _
  next =>
    obtain rfl := Except.ok.inj built
    simp

/-- Forbidden patterns that match no empty line do not notice empty lines. -/
theorem passesEmptyLines_of_forbiddenRules {config : ForbiddenConfig}
    (plain : ∀ pattern ∈ config.patterns, ∀ expression,
      Regex.ofText? pattern = .ok expression → expression.occursIn [] = false)
    {rules : List Rule} (built : forbiddenRules config = .ok rules) :
    ∀ rule ∈ rules, rule.PassesEmptyLines := by
  obtain ⟨patterns, read, done⟩ := bind_eq_ok_iff.mp built
  obtain rfl := Except.ok.inj done
  refine passesEmptyLines_of_enabled (forbidden patterns) ?_ _
  intro pattern member
  obtain ⟨text, inConfig, same⟩ := (mem_iff_of_mapM read).mp member
  rw [Forbidden.Pattern.ofText] at same
  split at same
  next => contradiction
  next expression isRead =>
    obtain rfl := Except.ok.inj same
    exact plain text inConfig expression isRead

/-- No rule of a valid configuration notices empty lines, if no forbidden pattern matches one. -/
theorem passesEmptyLines_of_ofConfig {config : Config} (valid : config.Valid)
    (plain : ∀ pattern ∈ config.forbidden.patterns, ∀ expression,
      Regex.ofText? pattern = .ok expression → expression.occursIn [] = false)
    {rules : List Rule} (built : ofConfig config = .ok rules) :
    ∀ rule ∈ rules, rule.PassesEmptyLines := by
  obtain ⟨documentation, documentationBuilt, built⟩ := bind_eq_ok_iff.mp built
  obtain ⟨forbidden, forbiddenBuilt, built⟩ := bind_eq_ok_iff.mp built
  obtain rfl := Except.ok.inj built
  intro rule member
  simp only [List.mem_append] at member
  rcases member with (((lineLength | ordering) | spacing) | inDocumentation) | inForbidden
  · exact passesEmptyLines_of_enabled (.lineLength _) trivial _ rule lineLength
  · exact passesEmptyLines_of_enabled (.ordering _) trivial _ rule ordering
  · exact passesEmptyLines_of_enabled (.spacing _) trivial _ rule spacing
  · exact passesEmptyLines_of_documentationRules valid.blockStart documentationBuilt rule
      inDocumentation
  · exact passesEmptyLines_of_forbiddenRules plain forbiddenBuilt rule inForbidden

end Rule

namespace Linter

open Problem (MovedDown)

variable {linter : Linter}

/-- Line feeds in front of a text are empty lines above. -/
theorem source_lineFeeds_append (linter : Linter) (path : Path) (count : Nat) (text : Text) :
    linter.source path (List.replicate count '\n' ++ text) =
      (linter.source path text).emptyAbove count := by
  have ended : List.replicate count '\n' = [] ∨
      (List.replicate count '\n').getLast? = some '\n' := by
    cases count with
    | zero => exact Or.inl rfl
    | succ count => exact Or.inr (by simp [List.getLast?_replicate])
  have lines := Text.lines_append ended text
  rw [Text.lines_lineFeeds] at lines
  simp only [source, Source.emptyAbove, Symbols.ofText, lines, Symbols.ofLines_empty_append]
  split <;> rfl

/-- Line feeds at the end of a text are empty lines below, if its last line is ended. -/
theorem source_append_lineFeeds (linter : Linter) (path : Path) (count : Nat) {text : Text}
    (ended : text = [] ∨ text.getLast? = some '\n') :
    linter.source path (text ++ List.replicate count '\n') =
      (linter.source path text).emptyBelow count := by
  have lines := Text.lines_append ended (List.replicate count '\n')
  rw [Text.lines_lineFeeds] at lines
  simp only [source, Source.emptyBelow, Symbols.ofText, lines, Symbols.ofLines_append_empty]

/-- Each rule moves its problems down, so the whole list does. -/
theorem check_lineFeeds_append (passes : ∀ rule ∈ linter.rules, rule.PassesEmptyLines) (path : Path)
    (count : Nat) (text : Text) :
    MovedDown count (linter.check path text)
      (linter.check path (List.replicate count '\n' ++ text)) := by
  have found : MovedDown count (linter.rules.flatMap fun rule => rule.check (linter.source path text))
      (linter.rules.flatMap fun rule =>
        rule.check ((linter.source path text).emptyAbove count)) :=
    MovedDown.flatMap fun rule member =>
      Rule.check_emptyAbove (passes rule member) count (linter.symbols_source path text)
  rw [MovedDown, check, check, source_lineFeeds_append, List.map_map, List.map_map]
  exact found

/-- No rule notices empty lines at the end. -/
theorem check_append_lineFeeds (passes : ∀ rule ∈ linter.rules, rule.PassesEmptyLines) (path : Path)
    (count : Nat) {text : Text} (ended : text = [] ∨ text.getLast? = some '\n') :
    linter.check path (text ++ List.replicate count '\n') = linter.check path text := by
  have same : (linter.rules.flatMap fun rule =>
      rule.check ((linter.source path text).emptyBelow count)) =
        linter.rules.flatMap fun rule => rule.check (linter.source path text) := by
    refine congrArg List.flatten (List.map_congr_left fun rule member => ?_)
    exact Rule.check_emptyBelow (passes rule member) count (linter.symbols_source path text)
  rw [check, source_append_lineFeeds linter path count ended, same, check]

/-- Empty lines in front of a text move its problems down and change nothing else about their kinds
and their lines. Empty lines at the end of a text change nothing. The configuration has to be valid,
and no forbidden expression may match the empty text. -/
theorem check_emptyLines {config : Config} (valid : config.validate = .ok ())
    (plain : ∀ pattern ∈ config.forbidden.patterns, ∀ expression,
      Regex.ofText? pattern = .ok expression → expression.occursIn [] = false) :
    ∃ linter, ofConfig config = .ok linter ∧ ∀ path text count,
      ((linter.check path (List.replicate count '\n' ++ text)).map fun problem =>
          (problem.kind, problem.line)) =
        ((linter.check path text).map fun problem => (problem.kind, problem.line + count)) ∧
      (text = [] ∨ text.getLast? = some '\n' →
        linter.check path (text ++ List.replicate count '\n') = linter.check path text) := by
  have isValid := Config.validate_eq_ok_iff.mp valid
  obtain ⟨linter, built⟩ := isValid.exists_linter
  obtain ⟨rules, rulesBuilt, shape⟩ := ofConfig_eq_ok_iff.mp built
  have passes : ∀ rule ∈ linter.rules, rule.PassesEmptyLines := by
    rw [shape]
    exact Rule.passesEmptyLines_of_ofConfig isValid plain rulesBuilt
  exact ⟨linter, built, fun path text count =>
    ⟨check_lineFeeds_append passes path count text, check_append_lineFeeds passes path count⟩⟩

/-- Two empty lines at either end of a text with a forbidden expression, a close brace right above a
function, and a parameter list that does not end. -/
theorem check_emptyLines_two_lines :
    let forbidden := Regex.concat ("cout".toList.map fun char => .one (.single char))
    let config : Config := { forbidden := { patterns := ["cout".toList] } }
    let linter : Linter :=
      { rules := [.lineLength 80, .ordering {}, .spacing 2, .documentation .standard,
          .forbidden [⟨"cout".toList, forbidden⟩]]
        symbolExtensions := ["cpp".toList]
        frameworks := ["allegro".toList]
        unreported := ({} : ReportConfig).exclude }
    let text := "void b() \x7b\n  cout;\n\x7d\nvoid a(int x,\n".toList
    config.validate = .ok () ∧ forbidden.occursIn [] = false ∧ ofConfig config = .ok linter ∧
    ((linter.check "f.cpp".toList (['\n', '\n'] ++ text)).map fun problem =>
        (problem.kind, problem.line)) =
      [(.unorderedFunctions, 3), (.crampedCloseBrace, 5), (.missingDocumentation, 3),
        (.missingDocumentation, 6), (.forbiddenToken, 4)] ∧
    linter.check "f.cpp".toList (text ++ ['\n', '\n']) = linter.check "f.cpp".toList text := by
  intro forbidden config linter text
  have valid : config.validate = .ok () := rfl
  have read : Regex.ofText? "cout".toList = .ok forbidden := rfl
  have notEmpty : forbidden.occursIn [] = false := by decide +kernel
  have built : ofConfig config = .ok linter := rfl
  have plain : ∀ pattern ∈ config.forbidden.patterns, ∀ expression,
      Regex.ofText? pattern = .ok expression → expression.occursIn [] = false := by
    intro pattern member expression isRead
    obtain rfl := List.mem_singleton.mp member
    obtain rfl := Except.ok.inj (read.symm.trans isRead)
    exact notEmpty
  obtain ⟨found, foundBuilt, same⟩ := check_emptyLines valid plain
  obtain rfl := Except.ok.inj (built.symm.trans foundBuilt)
  refine ⟨valid, notEmpty, built, ?_, (same "f.cpp".toList text 2).2 (by decide)⟩
  -- The problems of the text itself are two lines higher.
  have marks : ((linter.check "f.cpp".toList text).map fun problem =>
      (problem.kind, problem.line + 2)) =
        [(.unorderedFunctions, 3), (.crampedCloseBrace, 5), (.missingDocumentation, 3),
          (.missingDocumentation, 6), (.forbiddenToken, 4)] := by decide +kernel
  exact ((same "f.cpp".toList text 2).1).trans marks

end Linter

end HouseStyle
