/-
This file proves that neither the lines of a file nor the names of its symbols have line feeds.
-/

import HouseStyle.Proofs.Source.WellFormed
import HouseStyle.Proofs.Text.Lines

namespace HouseStyle

namespace Definition

/-- A name that is called is part of its line. -/
theorem subset_of_nameBefore? {text name : Text} (found : nameBefore? text = some name) :
    name ⊆ text := by
  rw [nameBefore?] at found
  split at found
  next cut =>
    obtain rfl := Option.some.inj found
    rw [(Text.cutAt?_spec cut).1]
    exact List.subset_append_left _ _
  next => contradiction

/-- The parts of a method name are parts of the line. -/
theorem subset_of_splitScope? {line qualifier name : Text}
    (found : splitScope? line = some (qualifier, name)) : qualifier ⊆ line ∧ name ⊆ line := by
  induction line generalizing qualifier with
  | nil => contradiction
  | cons char rest inductionHypothesis =>
      unfold splitScope? at found
      split at found
      next => contradiction
      next =>
        split at found
        next later =>
          obtain ⟨rfl, rfl⟩ := Prod.mk.inj (Option.some.inj found)
          obtain ⟨inQualifier, inName⟩ := inductionHypothesis later
          exact ⟨List.cons_subset_cons char inQualifier, List.subset_cons_of_subset char inName⟩
        next =>
          split at found
          next after =>
            obtain ⟨_, before, same⟩ := Option.map_eq_some_iff.mp found
            obtain ⟨rfl, rfl⟩ := Prod.mk.inj same
            refine ⟨by simp, fun other member => ?_⟩
            simp [subset_of_nameBefore? before member]
          next => contradiction

/-- A scope is part of its qualifier. -/
theorem scopeOf_subset (qualifier : Text) : scopeOf qualifier ⊆ qualifier := by
  have filled := List.splitOn_ne_nil ' '
    ((Text.trim qualifier).filter fun char => char != '&' && char != '*')
  intro char member
  rw [scopeOf, List.getLast?_eq_some_getLast filled] at member
  have kept := Text.mem_of_mem_splitOn (List.getLast_mem filled) member
  exact Text.mem_of_mem_trim (List.mem_filter.mp kept).1

/-- The scope and the name of a function are written on the line that declares it. -/
theorem subset_of_ofLine? {line scope name : Text} (found : ofLine? line = some (scope, name)) :
    scope ⊆ line ∧ name ⊆ line := by
  rw [ofLine?] at found
  split at found
  next =>
    obtain ⟨declared, _⟩ := Option.filter_eq_some_iff.mp found
    have plain {text : Text} (inside : text ⊆ dropStandardScope line) : text ⊆ line :=
      fun _ member => mem_of_mem_dropStandardScope (inside member)
    cases method : scoped? (dropStandardScope line) with
    | some parts =>
        rw [method] at declared
        obtain rfl := Option.some.inj declared
        obtain ⟨⟨qualifier, untrimmed⟩, split, same⟩ := Option.map_eq_some_iff.mp method
        obtain ⟨rfl, rfl⟩ := Prod.mk.inj same
        obtain ⟨inQualifier, inName⟩ := subset_of_splitScope? split
        exact ⟨plain fun _ member => inQualifier (scopeOf_subset qualifier member),
          plain fun _ member => inName (Text.mem_of_mem_trim member)⟩
    | none =>
        rw [method] at declared
        have free : free? (dropStandardScope line) = some (scope, name) := declared
        obtain ⟨⟨head, tail⟩, cut, later⟩ := Option.bind_eq_some_iff.mp free
        obtain ⟨untrimmed, last, same⟩ := Option.map_eq_some_iff.mp later
        obtain ⟨rfl, rfl⟩ := Prod.mk.inj same
        have inHead : head ⊆ dropStandardScope line := by
          rw [(Text.cutAt?_spec cut).1]
          exact List.subset_append_left _ _
        exact ⟨by simp, plain fun _ member =>
          inHead (mem_of_afterLastSpace? last (Text.mem_of_mem_trim member))⟩
  next => contradiction

end Definition

/-- The target of an include is on one line. -/
theorem Include.not_mem_of_target? {line target : Text} (found : target? line = some target) :
    '\n' ∉ target := by
  rw [target?] at found
  split at found
  next => contradiction
  next rest _ =>
    split at found
    next => contradiction
    next =>
      obtain rfl := Option.some.inj found
      intro member
      have stops := List.all_eq_true.mp (List.all_takeWhile) _ (Text.mem_of_mem_trim member)
      simp at stops

/-- A name has no line feeds. -/
theorem Constant.IsName.not_mem {name : Text} (isName : IsName name) : '\n' ∉ name := by
  cases name with
  | nil => exact List.not_mem_nil
  | cons first rest =>
      intro member
      rcases List.mem_cons.mp member with rfl | later
      · exact absurd isName.1 (by decide)
      · exact absurd (isName.2 _ later) (by decide)

namespace Symbols

/-- No name of a symbol has a line feed. -/
structure IsFlat (symbols : Symbols) : Prop where
  scopes : ∀ function ∈ symbols.functions, '\n' ∉ function.scope
  names : ∀ function ∈ symbols.functions, '\n' ∉ function.name
  parameters : ∀ function ∈ symbols.functions, ∀ name ∈ function.parameters, '\n' ∉ name
  includes : ∀ directive ∈ symbols.includes, '\n' ∉ directive.target
  constants : ∀ constant ∈ symbols.constants, '\n' ∉ constant.name

/-- Symbols of lines without line feeds have none either. -/
theorem ofLines_isFlat (frameworks : List Text) {lines : List Text}
    (flat : ∀ line ∈ lines, '\n' ∉ line) : (ofLines frameworks lines).IsFlat where
  scopes := by
    intro function member
    obtain ⟨index, line, isLine, _, found, _⟩ := exists_line_of_mem_functionsFrom member
    exact fun inScope => flat line (List.mem_of_getElem? isLine)
      ((Definition.subset_of_ofLine? found).1 inScope)
  names := by
    intro function member
    obtain ⟨index, line, isLine, _, found, _⟩ := exists_line_of_mem_functionsFrom member
    exact fun inName => flat line (List.mem_of_getElem? isLine)
      ((Definition.subset_of_ofLine? found).2 inName)
  parameters := by
    intro function member name isParameter inName
    obtain ⟨_, _, _, _, _, parameters⟩ := exists_line_of_mem_functionsFrom member
    rw [parameters] at isParameter
    exact absurd ((Signature.isName_of_mem_parameters isParameter).plain _ inName).1 (by decide)
  includes := by
    intro directive member
    obtain ⟨_, _, _, _, target⟩ := exists_line_of_mem_includesFrom member
    exact Include.not_mem_of_target? target
  constants := by
    intro constant member
    obtain ⟨index, line, _, declared⟩ := exists_line_of_mem_constantsFrom member
    have opened := @Constant.isName_of_foldl_scopeAfter (lines.take index) none (by simp)
    exact (Constant.wellFormed_of_onLine? opened declared).name.not_mem

end Symbols

end HouseStyle
