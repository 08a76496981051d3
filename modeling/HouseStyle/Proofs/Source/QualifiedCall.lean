/-
This file proves that the text behind the first parenthesis of a line decides which function the line
declares if and only if it holds a call of a qualified name.
-/

import HouseStyle.Proofs.Source.Composition
import HouseStyle.Proofs.Source.Default

namespace HouseStyle.Definition

/-- The text has a `::` with a name and an opening parenthesis behind it, and no line feed in front
of it. -/
def CallsQualified (text : Text) : Prop :=
  ∃ before name after, text = before ++ ':' :: ':' :: (name ++ '(' :: after) ∧
    '\n' ∉ before ∧ name ≠ [] ∧ '(' ∉ name

/-- The name of a call if the text begins with its `::`. -/
def calledName? : Text → Option Text
  | ':' :: ':' :: rest => nameBefore? rest
  | _ => none

/-- The last scope of a line is found before an earlier one, because the search is greedy. -/
theorem splitScope?_cons (char : Char) (rest : Text) :
    splitScope? (char :: rest) =
      if char = '\n' then none
      else ((splitScope? rest).map fun (qualifier, name) => (char :: qualifier, name)).or
        ((calledName? rest).map fun name => ([char], name)) := by
  conv => left; unfold splitScope?
  split
  next => rfl
  next =>
    cases splitScope? rest with
    | some parts => rfl
    | none =>
        simp only [Option.map_none, Option.none_or]
        split
        next => rfl
        next other =>
          rw [calledName?, Option.map_none]
          exact other

/-- The name that is called ends at the first parenthesis. -/
theorem nameBefore?_eq_some_iff {text name : Text} :
    nameBefore? text = some name ↔
      ∃ after, text = name ++ '(' :: after ∧ name ≠ [] ∧ '(' ∉ name := by
  constructor
  · intro found
    rw [nameBefore?] at found
    split at found
    next first rest after cut =>
      obtain rfl := Option.some.inj found
      obtain ⟨shape, absent⟩ := Text.cutAt?_spec cut
      exact ⟨after, shape, List.cons_ne_nil _ _, absent⟩
    next => contradiction
  · rintro ⟨after, rfl, filled, absent⟩
    obtain ⟨first, rest, rfl⟩ := List.exists_cons_of_ne_nil filled
    rw [nameBefore?, Text.cutAt?_append absent]

/-- A qualified call starts with two colons. -/
theorem calledName?_eq_some_iff {text name : Text} :
    calledName? text = some name ↔
      ∃ after, text = ':' :: ':' :: (name ++ '(' :: after) ∧ name ≠ [] ∧ '(' ∉ name := by
  constructor
  · intro found
    unfold calledName? at found
    split at found
    next =>
      obtain ⟨after, rfl, isName⟩ := nameBefore?_eq_some_iff.mp found
      exact ⟨after, rfl, isName⟩
    next => contradiction
  · rintro ⟨after, rfl, isName⟩
    exact nameBefore?_eq_some_iff.mpr ⟨after, rfl, isName⟩

/-- A text holds a call if it begins with one, or if there is one behind its first character. -/
theorem callsQualified_cons_iff {char : Char} {text : Text} :
    CallsQualified (char :: text) ↔
      char ≠ '\n' ∧ CallsQualified text ∨ (calledName? (char :: text)).isSome = true := by
  rw [Option.isSome_iff_exists]
  constructor
  · rintro ⟨before, name, after, shape, noLineFeed, isName⟩
    cases before with
    | nil => exact Or.inr ⟨name, calledName?_eq_some_iff.mpr ⟨after, shape, isName⟩⟩
    | cons first before =>
        obtain ⟨rfl, rfl⟩ := List.cons.inj shape
        simp only [List.mem_cons, not_or] at noLineFeed
        exact Or.inl ⟨Ne.symm noLineFeed.1, before, name, after, rfl, noLineFeed.2, isName⟩
  · rintro (⟨different, before, name, after, rfl, noLineFeed, isName⟩ | ⟨name, found⟩)
    · refine ⟨char :: before, name, after, rfl, ?_, isName⟩
      simp [Ne.symm different, noLineFeed]
    · obtain ⟨after, shape, isName⟩ := calledName?_eq_some_iff.mp found
      exact ⟨[], name, after, shape, List.not_mem_nil, isName⟩

/-- The search for a scope succeeds if and only if there is a call behind the first character. -/
theorem isSome_splitScope?_cons {char : Char} (noLineFeed : char ≠ '\n') (text : Text) :
    (splitScope? (char :: text)).isSome = true ↔ CallsQualified text := by
  induction text generalizing char with
  | nil =>
      rw [splitScope?_cons, if_neg noLineFeed]
      simp [splitScope?, calledName?, CallsQualified]
  | cons next text inductionHypothesis =>
      rw [splitScope?_cons, if_neg noLineFeed, callsQualified_cons_iff, Option.isSome_or,
        Option.isSome_map, Option.isSome_map, Bool.or_eq_true]
      refine or_congr_left ?_
      by_cases lineFeed : next = '\n'
      · simp [splitScope?_cons, lineFeed]
      · simp [inductionHypothesis lineFeed, lineFeed]

instance (text : Text) : Decidable (CallsQualified text) :=
  decidable_of_iff _ (isSome_splitScope?_cons (show '(' ≠ '\n' by decide) text)

/-- A call in a text is a call in every longer text, if no line feed stands in front of it. -/
theorem splitScope?_append {head : Text} (noLineFeed : '\n' ∉ head) {text : Text}
    {parts : Text × Text} (found : splitScope? text = some parts) :
    splitScope? (head ++ text) = some (head ++ parts.1, parts.2) := by
  induction head with
  | nil => exact found
  | cons char head inductionHypothesis =>
      simp only [List.mem_cons, not_or] at noLineFeed
      rw [List.cons_append, splitScope?_cons, if_neg (Ne.symm noLineFeed.1),
        inductionHypothesis noLineFeed.2]
      rfl

/-- Text behind the first parenthesis does not matter for the name that is called. -/
theorem nameBefore?_append {head : Text} (plain : '(' ∉ head) (tail : Text) :
    nameBefore? (head ++ '(' :: tail) = nameBefore? (head ++ ['(']) := by
  rw [nameBefore?, nameBefore?, Text.cutAt?_append plain, Text.cutAt?_append plain]
  cases head <;> rfl

/-- A call that begins in front of a parenthesis ends there. -/
theorem calledName?_append {head : Text} (plain : '(' ∉ head) (tail : Text) :
    calledName? (head ++ '(' :: tail) = calledName? (head ++ ['(']) := by
  match head with
  | [] => rfl
  | [char] => simp [calledName?]
  | first :: second :: rest =>
      simp only [List.mem_cons, not_or] at plain
      by_cases starts : first = ':' ∧ second = ':'
      · rw [starts.1, starts.2]
        exact nameBefore?_append plain.2.2 tail
      · have none (text : Text) : calledName? (first :: second :: text) = none := by
          rw [calledName?]
          intro rest same
          exact starts ⟨(List.cons.inj same).1, (List.cons.inj (List.cons.inj same).2).1⟩
        rw [List.cons_append, List.cons_append, none, List.cons_append, List.cons_append, none]

/-- Without a call behind the parenthesis, the scope is found in front of it. -/
theorem splitScope?_append_plain {head tail : Text} (plain : '(' ∉ head)
    (none : ¬ CallsQualified tail) :
    splitScope? (head ++ '(' :: tail) = splitScope? (head ++ ['(']) := by
  induction head with
  | nil =>
      rw [← isSome_splitScope?_cons (show '(' ≠ '\n' by decide), Bool.not_eq_true,
        Option.isSome_eq_false_iff, Option.isNone_iff_eq_none] at none
      rw [List.nil_append, none]
      rfl
  | cons char head inductionHypothesis =>
      simp only [List.mem_cons, not_or] at plain
      rw [List.cons_append, List.cons_append, splitScope?_cons, splitScope?_cons,
        inductionHypothesis plain.2, calledName?_append plain.2]

/-- No occurrence of the standard scope reaches over a parenthesis. -/
theorem dropStandardScope_append (head tail : Text) :
    dropStandardScope (head ++ '(' :: tail) =
      dropStandardScope head ++ '(' :: dropStandardScope tail := by
  fun_induction dropStandardScope head with
  | case1 => rw [List.nil_append, List.nil_append, dropStandardScope]; simp
  | case2 rest inductionHypothesis => simp [dropStandardScope, inductionHypothesis]
  | case3 char rest noScope inductionHypothesis =>
      rw [List.cons_append, List.cons_append, dropStandardScope, inductionHypothesis]
      intro later isStart shape
      have start : "td::".toList <+: rest := by
        rw [← List.isPrefixOf_iff_prefix, ← Signature.isPrefixOf_append_cons
          (show '(' ∉ "td::".toList by decide) rest tail, List.isPrefixOf_iff_prefix, shape]
        exact List.prefix_append "td::".toList later
      obtain ⟨after, rfl⟩ := start
      exact noScope after isStart rfl

theorem head_append {head : Text} (plain : '(' ∉ head) (tail : Text) :
    Definition.head (head ++ '(' :: tail) = head := by
  have all : ∀ char ∈ head, (decide (char ≠ '(')) = true := by
    intro char member
    exact decide_eq_true fun same => plain (same ▸ member)
  rw [Definition.head, List.takeWhile_append_of_pos all]
  simp

/-- Text behind the first parenthesis does not decide whether a line is a candidate. -/
theorem isCandidate_append {head : Text} (plain : '(' ∉ head) (tail : Text) :
    isCandidate (head ++ '(' :: tail) = isCandidate (head ++ ['(']) := by
  cases head with
  | nil => simp [isCandidate, Definition.head]
  | cons char head =>
      have first := head_append plain tail
      have second := head_append plain []
      rw [List.cons_append] at first second
      rw [List.cons_append, List.cons_append, isCandidate, isCandidate, first, second]

/-- Without a call behind the parenthesis, the text in front of it declares the function. -/
theorem ofLine?_append_plain {head tail : Text} (plain : '(' ∉ head)
    (none : ¬ CallsQualified (dropStandardScope tail)) :
    ofLine? (head ++ '(' :: tail) = ofLine? (head ++ ['(']) := by
  have kept : '(' ∉ dropStandardScope head := fun member => plain (mem_of_mem_dropStandardScope member)
  have free : free? (dropStandardScope head ++ '(' :: dropStandardScope tail) =
      free? (dropStandardScope head ++ ['(']) := by
    rw [free?, free?, Text.cutAt?_append kept, Text.cutAt?_append kept]
    rfl
  have alone : dropStandardScope (head ++ ['(']) = dropStandardScope head ++ ['('] :=
    dropStandardScope_append head []
  simp only [ofLine?, isCandidate_append plain, alone]
  simp only [dropStandardScope_append, scoped?, splitScope?_append_plain kept none, free]

/-- The last call behind the parenthesis declares the function. -/
theorem ofLine?_append_call {head tail qualifier name : Text} (plain : '(' ∉ head)
    (noLineFeed : '\n' ∉ head) (candidate : isCandidate (head ++ ['(']) = true)
    (call : splitScope? ('(' :: dropStandardScope tail) = some (qualifier, name)) :
    ofLine? (head ++ '(' :: tail) =
      if Text.trim name = [] then none
      else some (scopeOf (dropStandardScope head ++ qualifier), Text.trim name) := by
  have kept : '\n' ∉ dropStandardScope head := fun member =>
    noLineFeed (mem_of_mem_dropStandardScope member)
  simp only [ofLine?, isCandidate_append plain, if_pos candidate, dropStandardScope_append, scoped?,
    splitScope?_append kept call]
  by_cases empty : Text.trim name = []
  · simp [empty]
  · simp [empty]

/-- A tail of a line changes nothing, whatever stands in front of its parenthesis, if and only if it
holds no call of a qualified name. -/
theorem ofLine?_agree_iff (tail : Text) :
    (∀ head other, '(' ∉ head → ¬ CallsQualified (dropStandardScope other) →
      ofLine? (head ++ '(' :: tail) = ofLine? (head ++ '(' :: other)) ↔
      ¬ CallsQualified (dropStandardScope tail) := by
  constructor
  · intro agree calls
    have found := (isSome_splitScope?_cons (show '(' ≠ '\n' by decide) _).mpr calls
    obtain ⟨⟨qualifier, name⟩, call⟩ := Option.isSome_iff_exists.mp found
    have noCall : ¬ CallsQualified (dropStandardScope []) := by simp [dropStandardScope, CallsQualified]
    -- A line that declares no function itself shows a call with a name, and a line that declares
    -- one shows a call without a name.
    have constructorLine := agree ['f'] [] (by decide) noCall
    have functionLine := agree "int f".toList [] (by decide) noCall
    rw [ofLine?_append_call (by decide) (by decide) (by decide) call] at constructorLine functionLine
    by_cases empty : Text.trim name = []
    · rw [if_pos empty] at functionLine
      exact absurd functionLine (by decide)
    · rw [if_neg empty] at constructorLine
      exact absurd constructorLine (by simp [show ofLine? ['f', '('] = none by decide])
  · intro none head other plain noCall
    rw [ofLine?_append_plain plain none, ofLine?_append_plain plain noCall]

/-- Neither the standard scope in front of a parenthesis nor another scope without a parenthesis behind
it makes a call. -/
theorem ofLine?_agree_iff_scopes :
    let tail := "std::string s = std::string(3, c), const gui::Point& at) \x7b".toList
    let other := ")".toList
    '(' ∉ "void Mob::set".toList ∧ ¬ CallsQualified (dropStandardScope tail) ∧
      ¬ CallsQualified (dropStandardScope other) ∧
      ofLine? ("void Mob::set".toList ++ '(' :: tail) =
        ofLine? ("void Mob::set".toList ++ '(' :: other) := by
  intro tail other
  have plain : '(' ∉ "void Mob::set".toList := by decide
  have noCall : ¬ CallsQualified (dropStandardScope tail) := by decide
  have alsoNoCall : ¬ CallsQualified (dropStandardScope other) := by decide
  exact ⟨plain, noCall, alsoNoCall, (ofLine?_agree_iff tail).mpr noCall _ other plain alsoNoCall⟩

/-- A default value with a call is taken for the function. -/
theorem not_ofLine?_agree :
    ¬ ∀ head first second : Text, '(' ∉ head →
      ofLine? (head ++ '(' :: first) = ofLine? (head ++ '(' :: second) := by
  intro agree
  have same := agree "void f".toList "int x = A::B(3)) \x7b".toList "int x) \x7b".toList (by decide)
  exact absurd same (by decide)

end HouseStyle.Definition
