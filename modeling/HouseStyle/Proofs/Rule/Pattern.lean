/-
This file proves that the expression for documented parameters can be read for every tag.
-/

import HouseStyle.Proofs.Regex.Quote
import HouseStyle.Proofs.Rule.Tag

namespace HouseStyle.Documentation

open Regex Unicode

/-- The written form of the parts after a tag. -/
def tailText : Text :=
  r"(?:\[[a-zA-Z, ]*\])?\s+([A-Za-z_][A-Za-z0-9_]*)".toList

/-- The parts after a tag, with the number of levels below each one. -/
def tailNodes : List Node :=
  [⟨direction, 5⟩, ⟨.repeated (.one whiteSpace) ⟨1, none⟩ true, 1⟩,
    ⟨.capture 1 (.sequence (.one nameStarts) (.repeated (.one nameChars) ⟨0, none⟩ true)), 4⟩]

/-- The parts after a tag are 14 tokens. -/
theorem readTokens_tailText (items : List Regex.Item) (fuel : Nat) :
    readTokens { items } (fuel + 14) tailText =
      .ok { items := (tailNodes.map .part).reverse ++ items, groups := 1 } :=
  readTokens_nil { items := (tailNodes.map .part).reverse ++ items, groups := 1 } fuel

theorem patternText_eq (tag : Text) : patternText tag = quote (Text.trim tag) ++ tailText := rfl

/-- The expression of a tag is read up to its end, whatever characters the tag has. -/
theorem readTokens_patternText (tag : Text) :
    readTokens {} (patternText tag).length (patternText tag) =
      .ok { items := (tailNodes.map .part).reverse ++ ((Text.trim tag).map Regex.Item.ofChar).reverse
            groups := 1 } := by
  obtain ⟨fuel, enough⟩ :
      ∃ fuel, (patternText tag).length = fuel + 14 + (Text.trim tag).length := by
    have longer := length_le_length_quote (Text.trim tag)
    have tokens : 14 ≤ tailText.length := by decide
    refine ⟨(patternText tag).length - 14 - (Text.trim tag).length, ?_⟩
    rw [patternText_eq, List.length_append]
    omega
  rw [enough, patternText_eq, readTokens_quote _ _ _ rfl, Machine.pushText, List.append_nil,
    readTokens_tailText]

/-- The tokens of a tag and of the rest make the expression of the tag. -/
theorem body_patternText (tag : Text) (groups : Nat) :
    ({ items := (tailNodes.map .part).reverse ++ (tag.map Regex.Item.ofChar).reverse, groups } :
      Machine).body = ⟨tagged tag, 6⟩ :=
  sequenceNode_pushText tag _ _ _

/-- The expression of a tag can be read, and it matches the tag literally. -/
theorem ofText?_patternText (tag : Text) :
    Regex.ofText? (patternText tag) = .ok (tagged (Text.trim tag)) := by
  have body := body_patternText (Text.trim tag) 1
  rw [Regex.ofText?, readTokens_patternText]
  simp only [bind, Except.bind, body]
  rfl

/-- The rule can be built for every tag. -/
theorem ofConfig_eq_ok (config : DocumentationConfig) :
    ofConfig config = .ok { blockStart := Text.trim config.blockStart
                            paramPattern := tagged (Text.trim config.paramTag) } := by
  rw [ofConfig, ofText?_patternText]

end HouseStyle.Documentation
