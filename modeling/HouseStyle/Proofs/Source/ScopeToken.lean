/-
This file proves that the scope of a function is the last word in front of its scope operator if and
only if no white space but a space stands in front of this word.
-/

import HouseStyle.Proofs.Source.ScopedPattern
import HouseStyle.Proofs.Source.WellFormed
import HouseStyle.Proofs.Text.Words

namespace HouseStyle.Definition

/-- The text without the signs of references and pointers. -/
def withoutSigns (text : Text) : Text :=
  text.filter fun char => char != '&' && char != '*'

/-- The last word of a qualifier without signs. All kinds of white space separate words. -/
def lastToken (qualifier : Text) : Text :=
  withoutSigns ((Text.words qualifier).getLast?.getD [])

/-- The last word of a qualifier is its only one, or it stands directly behind a space. -/
def IsSpaced (qualifier : Text) : Prop :=
  Text.isBlank (Text.beforeLastWord qualifier) = true ∨
    (Text.beforeLastWord qualifier).getLast? = some ' '

instance (qualifier : Text) : Decidable (IsSpaced qualifier) :=
  inferInstanceAs (Decidable (_ ∨ _))

/-- White space at the end of a text stays at its end without the signs. -/
theorem getLast?_withoutSigns {text : Text}
    (ended : ∀ char ∈ text.getLast?, Text.isBlankChar char = true) :
    (withoutSigns text).getLast? = text.getLast? := by
  rcases List.eq_nil_or_concat text with rfl | ⟨start, last, rfl⟩
  · rfl
  · rw [List.concat_eq_append] at ended ⊢
    have isBlank : Text.isBlankChar last = true := ended last (by simp)
    have noReference : last ≠ '&' := by
      rintro rfl
      exact absurd isBlank (by decide)
    have noPointer : last ≠ '*' := by
      rintro rfl
      exact absurd isBlank (by decide)
    simp [withoutSigns, List.filter_append, noReference, noPointer]

/-- The scope ends with the last word, and it is this word if the qualifier is spaced. -/
theorem scopeOf_lastToken (qualifier : Text) :
    lastToken qualifier <:+ scopeOf qualifier ∧
      (scopeOf qualifier = lastToken qualifier ↔ IsSpaced qualifier) := by
  obtain ⟨word, after, shape, isLast⟩ := Text.exists_isLastWord qualifier
  let front := withoutSigns (Text.trimStart (Text.beforeLastWord qualifier))
  have token : lastToken qualifier = withoutSigns word := by
    rw [lastToken, shape, isLast.getLast?_words]
  have noSpace : ' ' ∉ withoutSigns word := fun member => by
    have solid := isLast.plain ' ' (List.mem_filter.mp member).1
    contradiction
  have trimmed : Text.trim qualifier = Text.trimStart (Text.beforeLastWord qualifier) ++ word := by
    conv => lhs; rw [shape]
    exact isLast.trim_eq
  have scope : scopeOf qualifier =
      (List.splitOn ' ' front).getLast?.getD [] ++ withoutSigns word := by
    rw [← Text.getLast?_splitOn_append noSpace]
    simp only [scopeOf, trimmed, List.filter_append]
    rfl
  have ended : ∀ char ∈ (Text.trimStart (Text.beforeLastWord qualifier)).getLast?,
      Text.isBlankChar char = true := by
    rw [Text.getLast?_trimStart]
    split
    next => simp
    next => exact isLast.ended
  refine ⟨⟨_, by rw [scope, token]⟩, ?_⟩
  rw [scope, token, List.append_left_eq_self, Text.getLast?_splitOn_eq_nil_iff,
    getLast?_withoutSigns ended, Text.getLast?_trimStart, IsSpaced]
  by_cases blank : Text.isBlank (Text.beforeLastWord qualifier) = true
  · simp [blank]
  · cases last : (Text.beforeLastWord qualifier).getLast? with
    | none => simp [List.getLast?_eq_none_iff.mp last, Text.isBlank] at blank
    | some char => simp [blank]

end HouseStyle.Definition

namespace HouseStyle

open Definition

/-- The line of the function is cut behind the qualifier. -/
def Function.HasQualifier (lines : List Text) (function : Function) (qualifier : Text) : Prop :=
  ∃ line, lines[function.line - 1]? = some line ∧
    scopedExpr.firstCapture? 1 (dropStandardScope line) = some qualifier

namespace Symbols

/-- The scope of a recorded function is the one in its qualifier. -/
theorem scope_of_hasQualifier {frameworks lines : List Text} {function : Function}
    {qualifier : Text} (member : function ∈ (ofLines frameworks lines).functions)
    (qualified : function.HasQualifier lines qualifier) : function.scope = scopeOf qualifier := by
  obtain ⟨index, line, found, sum, declared, -⟩ := exists_line_of_mem_functionsFrom member
  obtain ⟨other, isLine, cut⟩ := qualified
  rw [sum, Nat.add_sub_cancel_left, found] at isLine
  obtain rfl := Option.some.inj isLine
  rw [firstCapture?_scopedExpr] at cut
  obtain ⟨⟨front, name⟩, split, rfl⟩ := Option.map_eq_some_iff.mp cut
  rw [ofLine?] at declared
  split at declared
  next =>
    have method : scoped? (dropStandardScope line) = some (scopeOf front, Text.trim name) := by
      rw [scoped?, split]
      rfl
    obtain ⟨same, -⟩ := Option.filter_eq_some_iff.mp declared
    rw [method] at same
    exact (Prod.mk.inj (Option.some.inj same)).1.symm
  next => contradiction

/-- The scope of a function has no signs and no spaces. It ends with the last word in front of its
scope operator, which is the one of the first match of the expression, and it is this word if and
only if the qualifier is spaced. So the scopes of two functions with the same last word are the same
if both qualifiers are spaced, and they differ if only one of them is. -/
theorem scope_lastToken_iff {frameworks lines : List Text} {function : Function} {qualifier : Text}
    (member : function ∈ (ofLines frameworks lines).functions)
    (qualified : function.HasQualifier lines qualifier) :
    Regex.ofText? r"^(.+)::([^(]+)\(".toList = .ok scopedExpr ∧
    ('&' ∉ function.scope ∧ '*' ∉ function.scope ∧ ' ' ∉ function.scope) ∧
    lastToken qualifier <:+ function.scope ∧
    (function.scope = lastToken qualifier ↔ IsSpaced qualifier) ∧
    ∀ otherLines, ∀ other ∈ (ofLines frameworks otherLines).functions, ∀ otherQualifier,
      other.HasQualifier otherLines otherQualifier →
        lastToken otherQualifier = lastToken qualifier → IsSpaced qualifier →
          (other.scope = function.scope ↔ IsSpaced otherQualifier) := by
  have scope := scope_of_hasQualifier member qualified
  obtain ⟨ends, token⟩ := scopeOf_lastToken qualifier
  rw [← scope] at ends token
  refine ⟨ofText?_scopedExpr, scope ▸ plain_scopeOf qualifier, ends, token, ?_⟩
  intro otherLines other otherMember otherQualifier otherQualified sameToken spaced
  rw [token.mpr spaced, ← sameToken, scope_of_hasQualifier otherMember otherQualified]
  exact (scopeOf_lastToken otherQualifier).2

/-- A tab and a reference stand between the type and the scope of the first function, and only a tab
stands in front of the scope of the second one. -/
theorem scope_lastToken_iff_tab :
    let lines := ["const Point\t& gui::Mob::center() \x7b".toList, "\x7d".toList]
    let otherLines := ["void\tgui::Mob::act(int x) \x7b".toList]
    let function : Function :=
      { scope := "gui::Mob".toList, name := "center".toList, line := 1, parameters := [] }
    let other : Function :=
      { scope := "void\tgui::Mob".toList, name := "act".toList, line := 1
        parameters := ["x".toList] }
    let qualifier := "const Point\t& gui::Mob".toList
    let otherQualifier := "void\tgui::Mob".toList
    function ∈ (ofLines [] lines).functions ∧ function.HasQualifier lines qualifier ∧
      other ∈ (ofLines [] otherLines).functions ∧ other.HasQualifier otherLines otherQualifier ∧
      lastToken otherQualifier = lastToken qualifier ∧ IsSpaced qualifier ∧
      function.scope = lastToken qualifier ∧ other.scope ≠ function.scope := by
  intro lines otherLines function other qualifier otherQualifier
  have member : function ∈ (ofLines [] lines).functions := by decide
  have qualified : function.HasQualifier lines qualifier := by
    refine ⟨_, rfl, ?_⟩
    rw [firstCapture?_scopedExpr]
    decide
  have otherMember : other ∈ (ofLines [] otherLines).functions := by decide
  have otherQualified : other.HasQualifier otherLines otherQualifier := by
    refine ⟨_, rfl, ?_⟩
    rw [firstCapture?_scopedExpr]
    decide
  have same : lastToken otherQualifier = lastToken qualifier := by decide
  have spaced : IsSpaced qualifier := by decide
  have narrow : ¬ IsSpaced otherQualifier := by decide
  obtain ⟨-, -, -, token, compared⟩ := scope_lastToken_iff member qualified
  have scopes := compared otherLines other otherMember _ otherQualified same spaced
  exact ⟨member, qualified, otherMember, otherQualified, same, spaced, token.mpr spaced,
    fun equal => narrow (scopes.mp equal)⟩

/-- A tab in front of a scope keeps the type in the scope. -/
theorem not_scope_lastToken :
    ¬ ∀ frameworks lines, ∀ function ∈ (ofLines frameworks lines).functions, ∀ qualifier,
      function.HasQualifier lines qualifier → function.scope = lastToken qualifier := by
  intro isToken
  have recorded : (ofLines [] ["void\tMob::act() \x7b".toList]).functions =
      [{ scope := "void\tMob".toList, name := "act".toList, line := 1, parameters := [] }] := by
    decide
  have scope := isToken _ _ _ (recorded ▸ List.mem_singleton_self _) "void\tMob".toList
    ⟨_, rfl, by rw [firstCapture?_scopedExpr]; decide⟩
  exact absurd scope (by decide)

end Symbols

end HouseStyle
