/-
This file proves that the ends of the lines of a text decide neither about its symbols nor about its
problems.
-/

import HouseStyle.Linter
import HouseStyle.Proofs.Text.Lines

namespace HouseStyle.Linter

/-- The two texts have the same symbols, and every linter finds the same problems in them. -/
structure FindsSame (first second : Text) : Prop where
  symbols : ∀ frameworks, Symbols.ofText frameworks first = Symbols.ofText frameworks second
  problems : ∀ (linter : Linter) (path : Path), linter.check path first = linter.check path second

/-- Only the lines of a text are looked at. -/
theorem findsSame_of_lines {first second : Text} (same : Text.lines first = Text.lines second) :
    FindsSame first second where
  symbols frameworks := by rw [Symbols.ofText, Symbols.ofText, same]
  problems linter path := by
    have sameSource : linter.source path first = linter.source path second := by
      simp only [source, Symbols.ofText, same]
    rw [check, check, sameSource]

/-- A carriage return in front of every line feed changes nothing, and the last line of a text may
be ended or not. -/
theorem findsSame_lineEnds {text : Text} (plain : '\r' ∉ text) :
    FindsSame (Text.withReturns text) text ∧
      (text ≠ [] → text.getLast? ≠ some '\n' →
        FindsSame (text ++ ['\n']) text ∧ FindsSame (text ++ ['\r', '\n']) text) := by
  refine ⟨findsSame_of_lines (Text.lines_withReturns plain), fun filled isOpen => ⟨?_, ?_⟩⟩
  · exact findsSame_of_lines (Text.lines_append_end rfl plain filled isOpen)
  · exact findsSame_of_lines (Text.lines_append_end rfl plain filled isOpen)

/-- Empty lines, a line that ends with a colon, and a last line without an end. -/
theorem findsSame_lineEnds_open_text :
    let text := "#include <map>\n\n\nMob::Mob(int x,\n  int y) :\n  x(y) \x7b\n\x7d".toList
    '\r' ∉ text ∧ text ≠ [] ∧ text.getLast? ≠ some '\n' ∧
      Text.withReturns text =
        "#include <map>\r\n\r\n\r\nMob::Mob(int x,\r\n  int y) :\r\n  x(y) \x7b\r\n\x7d".toList ∧
      FindsSame (Text.withReturns text) text ∧ FindsSame (text ++ ['\n']) text ∧
      FindsSame (text ++ ['\r', '\n']) text := by
  intro text
  have plain : '\r' ∉ text := by decide
  have filled : text ≠ [] := by decide
  have isOpen : text.getLast? ≠ some '\n' := by decide
  obtain ⟨returns, ended⟩ := findsSame_lineEnds plain
  exact ⟨plain, filled, isOpen, by decide, returns, ended filled isOpen⟩

end HouseStyle.Linter
