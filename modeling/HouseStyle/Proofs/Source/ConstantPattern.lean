/-
This file proves that the lines for namespaces and constants are recognized as two regular
expressions would do it.
-/

import HouseStyle.Proofs.Regex.FirstMatch
import HouseStyle.Regex.Reader
import HouseStyle.Source.Definition

namespace HouseStyle.Constant

open Regex Unicode

def capitals : CharSet :=
  .union (.union .empty (.between 'A' 'Z')) (.single '_')

def nameChars : CharSet :=
  .union (.union (.union .empty (.between 'A' 'Z')) (.between '0' '9')) (.single '_')

def otherThan (char : Char) : CharSet :=
  .complement (.union .empty (.single char))

/-- A name of capital letters, which is captured. -/
def nameExpr : Regex :=
  capturedRun capitals nameChars

/-- An opening brace, perhaps after a space. -/
def braceExpr : Regex :=
  .sequence (.repeated (.one (.single ' ')) ⟨0, some 1⟩ true) (.one (.single '\x7b'))

/-- The expression for a line that opens a namespace. -/
def openerExpr : Regex :=
  anchored (literal "namespace ".toList (.sequence nameExpr braceExpr))

/-- A semicolon, or other text without a closing parenthesis that ends with one. -/
def endExpr : Regex :=
  .capture 2 (.choice (.one (.single ';'))
    (.sequence (.repeated (.one (otherThan ')')) ⟨1, none⟩ true) (.one (.single ';'))))

def spacedNameExpr : Regex :=
  .sequence (.one (.single ' ')) (.sequence nameExpr endExpr)

/-- What follows the word for constants: a type without an equals sign, a name and an end. -/
def declaredExpr : Regex :=
  .sequence (.repeated (.one (otherThan '=')) ⟨1, none⟩ true) spacedNameExpr

/-- The expression for a line that declares a constant. -/
def declarationExpr : Regex :=
  anchored (.sequence (.repeated (.one (.complement (.single '\n'))) ⟨0, none⟩ true)
    (literal "const ".toList declaredExpr))

/-- The expression for namespaces is read from its pattern. -/
theorem ofText?_openerExpr :
    Regex.ofText? "^namespace ([A-Z_][A-Z0-9_]*) ?\\\x7b".toList = .ok openerExpr := rfl

/-- The expression for constants is read from its pattern. -/
theorem ofText?_declarationExpr :
    Regex.ofText? r"^.*const [^=]+ ([A-Z_][A-Z0-9_]*)(;|[^)]+;)".toList = .ok declarationExpr := rfl

/-- The characters at the beginning of a name are those of the expression. -/
theorem contains_capitals (char : Char) : capitals.contains char.toNat = isNameStart char := by
  have sign (other : Char) : char = other ↔ char.toNat = other.toNat := Char.toNat_inj.symm
  rw [Bool.eq_iff_iff, isNameStart]
  delta Char.isUpper
  simp only [capitals, CharSet.contains, CharSet.empty, CharSet.between, CharSet.single,
    Bool.or_eq_true, Bool.and_eq_true, decide_eq_true_eq, beq_iff_eq, UInt32.le_iff_toNat_le,
    ge_iff_le, sign, Char.reduceToNat]
  change _ ↔ (65 ≤ char.toNat ∧ char.toNat ≤ 90) ∨ char.toNat = 95
  omega

/-- The characters of a name are those of the expression. -/
theorem contains_nameChars (char : Char) : nameChars.contains char.toNat = isNamePart char := by
  have sign (other : Char) : char = other ↔ char.toNat = other.toNat := Char.toNat_inj.symm
  rw [Bool.eq_iff_iff, isNamePart]
  delta Char.isUpper Char.isDigit
  simp only [nameChars, CharSet.contains, CharSet.empty, CharSet.between, CharSet.single,
    Bool.or_eq_true, Bool.and_eq_true, decide_eq_true_eq, beq_iff_eq, UInt32.le_iff_toNat_le,
    ge_iff_le, sign, Char.reduceToNat]
  change _ ↔ ((65 ≤ char.toNat ∧ char.toNat ≤ 90) ∨ (48 ≤ char.toNat ∧ char.toNat ≤ 57)) ∨
    char.toNat = 95
  omega

theorem contains_complement (char other : Char) :
    CharSet.contains other.toNat (.complement (.single char)) = decide (other ≠ char) := by
  have single := contains_single char other
  rw [CharSet.contains]
  cases held : (CharSet.single char).contains other.toNat <;> simp_all

/-- All characters but one belong to the set. -/
theorem contains_otherThan (char other : Char) :
    (otherThan char).contains other.toNat = decide (other ≠ char) := by
  have none : CharSet.empty.contains other.toNat = false := by
    simp only [CharSet.empty, CharSet.contains, Bool.and_eq_false_iff, decide_eq_false_iff_not]
    omega
  rw [← contains_complement, otherThan, CharSet.contains, CharSet.contains, none, Bool.false_or,
    CharSet.contains]

/-- A declaration ends at its first semicolon, unless a parenthesis is closed before. -/
theorem endsDeclaration_cons (char : Char) (text : Text) :
    endsDeclaration (char :: text) =
      (decide (char ≠ ')') && (char == ';' || endsDeclaration text)) := by
  by_cases closing : char = ')'
  · simp [endsDeclaration, closing]
  · by_cases semicolon : char = ';'
    · simp [endsDeclaration, semicolon]
    · simp [endsDeclaration, closing, semicolon, Ne.symm semicolon]

/-- A character of a name neither ends a declaration nor keeps it from ending. -/
theorem endsDeclaration_name {char : Char} (part : isNamePart char = true) (text : Text) :
    endsDeclaration (char :: text) = endsDeclaration text := by
  have noClosing : char ≠ ')' := by
    rintro rfl
    exact absurd part (by decide)
  have noSemicolon : char ≠ ';' := by
    rintro rfl
    exact absurd part (by decide)
  simp [endsDeclaration_cons, noClosing, noSemicolon]

section End

variable {next : Continuation} {before : Option Char} {groups : List (Nat × Text)}
  {held : Option (Option Text)}

/-- Nothing but the next character decides whether a sign is found. -/
theorem captured_sign
    (keeps : ∀ before rest, captured 1 (next ⟨before, rest, groups⟩) = held) (sign : Char)
    (text : Text) :
    captured 1 (follow (.one (.single sign)) next ⟨before, text, groups⟩) =
      if text.head? = some sign then held else none := by
  rw [follow_single]
  cases text with
  | nil => rfl
  | cons char text =>
      by_cases same : char = sign
      · subst same
        simpa [List.isPrefixOf?] using keeps (some char) text
      · simp [List.isPrefixOf?, same, Ne.symm same]

/-- The search for the last semicolon succeeds if a declaration ends. -/
theorem farthest?_semicolon (text : Text) :
    farthest? ')' (fun text => if text.head? = some ';' then held else none) text =
      if endsDeclaration text then held else none := by
  induction text with
  | nil => rfl
  | cons char text inductionHypothesis =>
      rw [farthest?, inductionHypothesis, endsDeclaration_cons]
      by_cases closing : char = ')'
      · simp [closing]
      · by_cases semicolon : char = ';' <;> cases endsDeclaration text <;> simp [closing, semicolon]

/-- The end of a declaration is found if there is one, and the groups before it stay. -/
theorem captured_endExpr (before : Option Char) (text : Text) (groups : List (Nat × Text)) :
    captured 1 (follow endExpr some ⟨before, text, groups⟩) =
      if endsDeclaration text then some (groups.lookup 1) else none := by
  let next : Continuation := fun later =>
    some { later with groups := (2, text.take (text.length - later.rest.length)) :: later.groups }
  have keeps (before : Option Char) (rest : Text) :
      captured 1 (next ⟨before, rest, groups⟩) = some (groups.lookup 1) := rfl
  have choice : follow endExpr some ⟨before, text, groups⟩ =
      (follow (.one (.single ';')) next ⟨before, text, groups⟩ <|>
        follow (.one (otherThan ')')) (fun cursor =>
          atMost (follow (.one (otherThan ')'))) true cursor.rest.length
            (follow (.one (.single ';')) next) cursor) ⟨before, text, groups⟩) := rfl
  rw [choice, captured_orElse, captured_sign keeps]
  cases text with
  | nil => rfl
  | cons char rest =>
      rw [endsDeclaration_cons]
      by_cases closing : char = ')'
      · have outside : (otherThan ')').contains char.toNat = false :=
          (contains_otherThan ')' char).trans (by simp [closing])
        rw [follow_one_eq_none (by simpa using outside)]
        simp [closing]
      · have member : (otherThan ')').contains char.toNat = true :=
          (contains_otherThan ')' char).trans (by simp [closing])
        rw [follow_one_cons member, captured_atMost (contains_otherThan ')')
          (fun before text => captured_sign keeps ';' text) rest (Nat.le_refl _), farthest?_semicolon]
        cases endsDeclaration rest <;> by_cases semicolon : char = ';' <;> simp [semicolon, closing]

end End

/-- A name takes as many characters as it can, if what follows does not depend on where it stops. -/
theorem follow_nameExpr {next : Continuation}
    (keeps : ∀ before after char rest groups others, isNamePart char = true →
      (next ⟨before, char :: rest, groups⟩).isSome = true →
        (next ⟨after, rest, others⟩).isSome = true)
    (before : Option Char) (text : Text) (groups : List (Nat × Text)) :
    ∃ last, follow nameExpr next ⟨before, text, groups⟩ =
      (splitName? text).bind fun (name, rest) => next ⟨last, rest, (1, name) :: groups⟩ := by
  have same : splitName? text = splitRun? isNameStart isNamePart text := by
    cases text <;> rfl
  rw [same]
  exact follow_capturedRun contains_capitals contains_nameChars keeps before text groups

/-- A name and its end are captured if the text after the longest name is an end. -/
theorem captured_nameExpr {expr : Regex} {ends : Text → Bool}
    (found : ∀ before text groups, captured 1 (follow expr some ⟨before, text, groups⟩) =
      if ends text then some (groups.lookup 1) else none)
    (keeps : ∀ char text, isNamePart char = true → ends (char :: text) = true → ends text = true)
    (before : Option Char) (text : Text) (groups : List (Nat × Text)) :
    captured 1 (follow (.sequence nameExpr expr) some ⟨before, text, groups⟩) =
      ((splitName? text).bind fun (name, tail) => if ends tail then some name else none).map some := by
  have succeeds (before : Option Char) (text : Text) (groups : List (Nat × Text)) :
      (follow expr some ⟨before, text, groups⟩).isSome = ends text := by
    rw [← isSome_captured 1, found]
    cases ends text <;> rfl
  have longest (before after : Option Char) (char : Char) (rest : Text)
      (groups others : List (Nat × Text)) (part : isNamePart char = true)
      (ended : (follow expr some ⟨before, char :: rest, groups⟩).isSome = true) :
      (follow expr some ⟨after, rest, others⟩).isSome = true := by
    rw [succeeds] at ended ⊢
    exact keeps char rest part ended
  obtain ⟨last, shape⟩ := follow_nameExpr longest before text groups
  rw [follow, shape]
  cases splitName? text with
  | none => rfl
  | some parts =>
      obtain ⟨name, tail⟩ := parts
      rw [Option.bind_some, Option.bind_some, found]
      cases complete : ends tail <;> simp [complete]

/-- The name behind a space, if the declaration ends with it. -/
def spacedName? : Text → Option Text
  | ' ' :: after =>
      match splitName? after with
      | some (name, tail) => if endsDeclaration tail then some name else none
      | none => none
  | _ => none

/-- A name behind a space is a name with the end of a declaration behind it. -/
theorem spacedName?_eq (text : Text) :
    spacedName? text = (List.isPrefixOf? [' '] text).bind fun after =>
      (splitName? after).bind fun (name, tail) => if endsDeclaration tail then some name else none := by
  rw [spacedName?.eq_def]
  split
  next after =>
    have behind : List.isPrefixOf? [' '] (' ' :: after) = some after :=
      List.isPrefixOf?_eq_some_iff_append_eq.mpr rfl
    rw [behind, Option.bind_some]
    cases splitName? after <;> rfl
  next other =>
    have noSpace : List.isPrefixOf? [' '] text = none :=
      Option.eq_none_iff_forall_ne_some.mpr fun after found =>
        other after (List.isPrefixOf?_eq_some_iff_append_eq.mp found).symm
    rw [noSpace]
    rfl

/-- The expression captures the name behind a space. -/
theorem captured_spacedNameExpr (before : Option Char) (text : Text) (groups : List (Nat × Text)) :
    captured 1 (follow spacedNameExpr some ⟨before, text, groups⟩) =
      (spacedName? text).map some := by
  rw [spacedNameExpr, follow, follow_single, spacedName?_eq]
  cases List.isPrefixOf? [' '] text with
  | none => rfl
  | some after =>
      refine captured_nameExpr captured_endExpr (fun char text part ended => ?_) (some ' ') after groups
      rwa [endsDeclaration_name part] at ended

/-- The type is followed by the last name that fits. -/
theorem declared?_cons (char : Char) (rest : Text) :
    declared? (char :: rest) = if char = '=' then none else farthest? '=' spacedName? rest := by
  have step (char : Char) (rest : Text) : declared? (char :: rest) =
      if char = '=' then none else (declared? rest).or (spacedName? rest) := by
    conv => lhs; unfold declared?
    split
    next => rfl
    next => cases declared? rest <;> rfl
  induction rest generalizing char with
  | nil => exact step char []
  | cons second rest inductionHypothesis => rw [step, inductionHypothesis, farthest?]

/-- The expression captures the name of a declaration. -/
theorem captured_declaredExpr (before : Option Char) (text : Text) (groups : List (Nat × Text)) :
    captured 1 (follow declaredExpr some ⟨before, text, groups⟩) = (declared? text).map some := by
  cases text with
  | nil => rfl
  | cons char rest =>
      rw [declaredExpr, follow, follow_repeated_one, exactly, declared?_cons]
      by_cases equals : char = '='
      · have outside : (otherThan '=').contains char.toNat = false :=
          (contains_otherThan '=' char).trans (by simp [equals])
        rw [follow_one_eq_none (by simpa using outside), if_pos equals]
        rfl
      · have member : (otherThan '=').contains char.toNat = true :=
          (contains_otherThan '=' char).trans (by simp [equals])
        rw [follow_one_cons member, if_neg equals, ← farthest?_map]
        exact captured_atMost (contains_otherThan '=')
          (fun before text => captured_spacedNameExpr before text groups) rest (Nat.le_refl _)

/-- The name behind the word for constants at the beginning of the text. -/
def nameHere? (text : Text) : Option Text :=
  (List.isPrefixOf? "const ".toList text).bind declared?

/-- The name of a constant is the one that is farthest on its line. -/
theorem name?_eq (line : Text) : name? line = farthest? '\n' nameHere? line := by
  induction line with
  | nil => rfl
  | cons char rest inductionHypothesis =>
      rw [name?, farthest?, ← inductionHypothesis]
      cases (if char = '\n' then none else name? rest) <;> rfl

/-- The first match of the expression captures the name of the constant. -/
theorem firstCapture?_declarationExpr (line : Text) :
    declarationExpr.firstCapture? 1 line = name? line := by
  have here (before : Option Char) (text : Text) :
      captured 1 (follow (literal "const ".toList declaredExpr) some ⟨before, text, []⟩) =
        (nameHere? text).map some := by
    rw [follow_literal, nameHere?]
    cases List.isPrefixOf? "const ".toList text with
    | none => rfl
    | some rest => exact captured_declaredExpr _ rest []
  refine firstCapture?_anchored ?_
  rw [name?_eq, ← farthest?_map]
  exact captured_atMost (contains_complement '\n') here line (Nat.le_refl _)

/-- An opening brace at the beginning of the text, perhaps after a space. -/
def opensBrace : Text → Bool
  | '\x7b' :: _ => true
  | ' ' :: '\x7b' :: _ => true
  | _ => false

/-- A line opens a namespace if its keyword, a name and a brace follow each other. -/
theorem opener?_eq (line : Text) :
    opener? line = ((List.isPrefixOf? "namespace ".toList line).bind splitName?).bind fun (name, tail) =>
      if opensBrace tail then some name else none := by
  rw [opener?]
  split
  next found => rw [found]; rfl
  next found => rw [found]; rfl
  next brace space =>
    cases split : (List.isPrefixOf? "namespace ".toList line).bind splitName? with
    | none => rfl
    | some parts =>
        obtain ⟨name, tail⟩ := parts
        have closed : opensBrace tail = false := by
          rw [opensBrace.eq_def]
          split
          next rest => exact absurd split (brace name rest)
          next rest => exact absurd split (space name rest)
          next => rfl
        simp [closed]

/-- A brace may have one space in front of it. -/
theorem opensBrace_cons (char : Char) (text : Text) :
    opensBrace (char :: text) =
      (char == '\x7b' || char == ' ' && decide (text.head? = some '\x7b')) := by
  rw [opensBrace.eq_def]
  split
  next same => simp [(List.cons.inj same).1]
  next same =>
    obtain ⟨rfl, rfl⟩ := List.cons.inj same
    rfl
  next brace space =>
    have noBrace : char ≠ '\x7b' := fun same => brace text (by rw [same])
    by_cases isSpace : char = ' '
    · have later : text.head? ≠ some '\x7b' := by
        intro head
        obtain ⟨rest, rfl⟩ := List.head?_eq_some_iff.mp head
        exact space rest (by rw [isSpace])
      simp [noBrace, later]
    · simp [noBrace, isSpace]

/-- No brace is opened in front of a character of a name. -/
theorem opensBrace_name {char : Char} (part : isNamePart char = true) (text : Text) :
    opensBrace (char :: text) = false := by
  have noBrace : char ≠ '\x7b' := by
    rintro rfl
    exact absurd part (by decide)
  have noSpace : char ≠ ' ' := by
    rintro rfl
    exact absurd part (by decide)
  simp [opensBrace_cons, noBrace, noSpace]

/-- The expression for the brace changes no capture. -/
theorem captured_braceExpr (before : Option Char) (text : Text) (groups : List (Nat × Text)) :
    captured 1 (follow braceExpr some ⟨before, text, groups⟩) =
      if opensBrace text then some (groups.lookup 1) else none := by
  have keeps (before : Option Char) (rest : Text) :
      captured 1 (some ⟨before, rest, groups⟩) = some (groups.lookup 1) := rfl
  have repetition : follow braceExpr some ⟨before, text, groups⟩ =
      atMost (follow (.one (.single ' '))) true 1 (follow (.one (.single '\x7b')) some)
        ⟨before, text, groups⟩ := rfl
  rw [repetition]
  cases text with
  | nil => rfl
  | cons char rest =>
      rw [atMost_one_cons, captured_orElse, captured_sign keeps, opensBrace_cons, atMost]
      by_cases space : char = ' '
      · subst space
        rw [if_pos ((contains_single ' ' ' ').mpr rfl), captured_sign keeps]
        by_cases brace : rest.head? = some '\x7b' <;> simp [brace]
      · have outside : (CharSet.single ' ').contains char.toNat = false :=
          Bool.eq_false_iff.mpr fun member => space ((contains_single ' ' char).mp member)
        rw [outside]
        by_cases brace : char = '\x7b' <;> simp [brace, space]

/-- The first match of the expression captures the name of the namespace. -/
theorem firstCapture?_openerExpr (line : Text) :
    openerExpr.firstCapture? 1 line = opener? line := by
  refine firstCapture?_anchored ?_
  rw [follow_literal, opener?_eq]
  cases List.isPrefixOf? "namespace ".toList line with
  | none => rfl
  | some rest =>
      refine captured_nameExpr captured_braceExpr (fun char text part opens => ?_) _ rest []
      rw [opensBrace_name part] at opens
      contradiction

end HouseStyle.Constant
