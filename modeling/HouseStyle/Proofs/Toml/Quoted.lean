/-
This file proves that every quoted text is read back, in each of the four written forms.
-/

import HouseStyle.Toml.Quoted
import HouseStyle.Toml.Writer
import HouseStyle.Proofs.Text.Basic

namespace HouseStyle.Toml

/-- A character that is neither quoted nor escaped stands for itself. -/
theorem Style.decode_plain {style : Style} {char : Char}
    (step : stepPlain style char = some (.plain, [char])) (rest : Text) :
    style.decode .plain (char :: rest) = (style.decode .plain rest).map (char :: ·) := by
  rw [decode, Style.step, step]
  rfl

theorem hexValue?_upperDigit : ∀ value < 16, hexValue? (upperDigit value) = some value := by
  decide

/-- The code of a character gives the character. -/
theorem charOfCode?_toNat (char : Char) : charOfCode? char.toNat = some char := by
  have valid : char.toNat.isValidChar := char.valid
  simp [charOfCode?, valid, Char.ofNat_toNat]

/-- The escape of a code gives back its character. -/
theorem Style.decode_escapeCode {style : Style} (escapes : style.hasEscapes = true) {char : Char}
    (small : char.toNat < 256) (rest : Text) :
    style.decode .plain (escapeCode char ++ rest) =
      (style.decode .plain rest).map (char :: ·) := by
  have high := hexValue?_upperDigit (char.toNat / 16) (by omega)
  have low := hexValue?_upperDigit (char.toNat % 16) (by omega)
  have zero : hexValue? '0' = some 0 := rfl
  have code : 16 * (char.toNat / 16) + char.toNat % 16 = char.toNat := by omega
  simp [escapeCode, decode, Style.step, stepPlain, escapes, stepEscape, stepDigit, zero, high, low,
    code, charOfCode?_toNat, Function.comp_def]

theorem toNat_lt_of_isControl {char : Char} (control : isControl char = true) :
    char.toNat < 256 := by
  simp [isControl] at control
  omega

/-- An escaped character is read back. -/
theorem Style.decode_escapeChar {style : Style} (escapes : style.hasEscapes = true) (char : Char)
    (rest : Text) :
    style.decode .plain (escapeChar char ++ rest) =
      (style.decode .plain rest).map (char :: ·) := by
  unfold escapeChar
  split
  case h_8 quote backslash _ _ lineFeed _ carriage =>
    split
    next control => exact decode_escapeCode escapes (toNat_lt_of_isControl control) rest
    next notControl =>
      refine decode_plain ?_ rest
      have noCarriage : char ≠ '\r' := carriage
      have noFeed : char ≠ '\n' := lineFeed
      have noSlash : char ≠ '\\' := backslash
      simp [stepPlain, noCarriage, noFeed, noSlash, notControl]
  all_goals simp [decode, Style.step, stepPlain, escapes, stepEscape, Function.comp_def]

/-- Escaped characters are decoded again, in every style with escapes. -/
theorem Style.decode_flatMap_escapeChar {style : Style} (escapes : style.hasEscapes = true)
    (text : Text) : style.decode .plain (text.flatMap escapeChar) = some text := by
  induction text with
  | nil => rfl
  | cons char rest inductionHypothesis =>
      rw [List.flatMap_cons, decode_escapeChar escapes, inductionHypothesis]
      rfl

/-- The character ends no quoted text and starts no escape. -/
def isInner (char : Char) : Bool :=
  char != '"' && char != '\\'

theorem isInner_upperDigit : ∀ value < 16, isInner (upperDigit value) = true := by
  decide

/-- The written form of a character is the character itself, or a backslash with one more
character and inner characters behind it. -/
theorem escapeChar_cases (char : Char) :
    (isInner char = true ∧ escapeChar char = [char]) ∨
      ∃ next digits, escapeChar char = '\\' :: next :: digits ∧ digits.all isInner = true := by
  unfold escapeChar
  split
  case h_8 quote backslash _ _ _ _ _ =>
    split
    next control =>
      have small := toNat_lt_of_isControl control
      have high := isInner_upperDigit (char.toNat / 16) (by omega)
      have low := isInner_upperDigit (char.toNat % 16) (by omega)
      have zero : isInner '0' = true := rfl
      exact Or.inr ⟨'u', _, rfl, by simp [zero, high, low]⟩
    next =>
      have noQuote : char ≠ '"' := quote
      have noSlash : char ≠ '\\' := backslash
      exact Or.inl ⟨by simp [isInner, noQuote, noSlash], rfl⟩
  all_goals exact Or.inr ⟨_, [], rfl, rfl⟩

/-- Characters that end no string are part of it. -/
theorem splitBasic_inner (inner rest : Text) (plain : inner.all isInner = true) :
    splitBasic (inner ++ rest) =
      (splitBasic rest).map fun (body, after) => (inner ++ body, after) := by
  induction inner with
  | nil => simp
  | cons char inner inductionHypothesis =>
      simp only [List.all_cons, Bool.and_eq_true, isInner, bne_iff_ne] at plain
      obtain ⟨⟨noQuote, noSlash⟩, others⟩ := plain
      rw [List.cons_append, splitBasic, inductionHypothesis others]
      · simp [Function.comp_def]
      · exact noQuote
      · intro _ _ same
        exact absurd same noSlash

/-- A written character never ends a text on one line. -/
theorem splitBasic_escapeChar (char : Char) (rest : Text) :
    splitBasic (escapeChar char ++ rest) =
      (splitBasic rest).map fun (body, after) => (escapeChar char ++ body, after) := by
  rcases escapeChar_cases char with ⟨plain, same⟩ | ⟨next, digits, same, plain⟩
  · rw [same]
    exact splitBasic_inner [char] rest (by simpa using plain)
  · rw [same, List.cons_append, List.cons_append, splitBasic, splitBasic_inner digits rest plain]
    simp [Function.comp_def]

/-- An escaped text ends at its own quote. -/
theorem splitBasic_flatMap_escapeChar (text rest : Text) :
    splitBasic (text.flatMap escapeChar ++ '"' :: rest) =
      some (text.flatMap escapeChar, rest) := by
  induction text with
  | nil => rfl
  | cons char text inductionHypothesis =>
      rw [List.flatMap_cons, List.append_assoc, splitBasic_escapeChar, inductionHypothesis]
      rfl

/-- The text after a quoted text does not start with a quote of the same kind. -/
def NoQuote (quote : Char) (rest : Text) : Prop :=
  rest.head? ≠ some quote

/-- A basic string is read back. -/
theorem readQuoted_quoteBasic (text : Text) {rest : Text} (outside : NoQuote '"' rest) :
    readQuoted (quoteBasic text ++ rest) = some (text, rest) := by
  have line : readQuotedLine (quoteBasic text ++ rest) = some (text, rest) := by
    simp only [quoteBasic, List.cons_append, List.append_assoc, List.nil_append, readQuotedLine,
      splitBasic_flatMap_escapeChar, Option.bind_some, Style.decode_flatMap_escapeChar,
      Option.map_some]
  have single : ∀ after, quoteBasic text ++ rest ≠ '"' :: '"' :: '"' :: after := by
    intro after same
    cases text with
    | nil =>
        simp [quoteBasic] at same
        simp [NoQuote, same] at outside
    | cons char text =>
        rcases escapeChar_cases char with ⟨plain, written⟩ | ⟨next, digits, written, plain⟩
        · simp [quoteBasic, written] at same
          simp [isInner, same.1] at plain
        · simp [quoteBasic, written] at same
  rw [readQuoted, line]
  · exact single
  · simp [quoteBasic]

/-- A character that ends no string of several lines is part of it. -/
theorem splitLines_cons (hasEscapes : Bool) {quote char : Char} {rest : Text}
    (opened : closing? quote (char :: rest) = none)
    (plain : (hasEscapes && char == '\\') = false) (more : rest ≠ []) :
    splitLines hasEscapes quote (char :: rest) =
      (splitLines hasEscapes quote rest).map fun (body, after) => (char :: body, after) := by
  obtain ⟨next, tail, same⟩ := List.exists_cons_of_ne_nil more
  subst same
  rw [splitLines, opened]
  simp only [plain, Bool.false_eq_true, if_false]

theorem closing?_ne {quote char : Char} (different : char ≠ quote) (rest : Text) :
    closing? quote (char :: rest) = none := by
  simp [closing?, List.isPrefixOf?, different.symm]

/-- Characters other than quotes and backslashes belong to the text. -/
theorem splitLines_inner {hasEscapes : Bool} {quote : Char} (inner : Text) {rest : Text}
    (plain : ∀ char ∈ inner, char ≠ quote ∧ (hasEscapes && char == '\\') = false)
    (more : rest ≠ []) :
    splitLines hasEscapes quote (inner ++ rest) =
      (splitLines hasEscapes quote rest).map fun (body, after) => (inner ++ body, after) := by
  induction inner with
  | nil => simp
  | cons char inner inductionHypothesis =>
      have first := plain char List.mem_cons_self
      have others := inductionHypothesis fun char member =>
        plain char (List.mem_cons_of_mem _ member)
      rw [List.cons_append, splitLines_cons hasEscapes (closing?_ne first.1 _) first.2
        (List.append_ne_nil_of_right_ne_nil inner more), others]
      simp [Function.comp_def]

/-- An escaped character ends no string. -/
theorem splitLines_escape {quote : Char} (different : '\\' ≠ quote) (next : Char) (rest : Text) :
    splitLines true quote ('\\' :: next :: rest) =
      (splitLines true quote rest).map fun (body, after) => ('\\' :: next :: body, after) := by
  rw [splitLines, closing?_ne different]
  rfl

/-- The characters of an escape belong to the text. -/
theorem splitLines_escapeChar (char : Char) {rest : Text} (more : rest ≠ []) :
    splitLines true '"' (escapeChar char ++ rest) =
      (splitLines true '"' rest).map fun (body, after) => (escapeChar char ++ body, after) := by
  rcases escapeChar_cases char with ⟨plain, same⟩ | ⟨next, digits, same, plain⟩
  · rw [same]
    exact splitLines_inner [char] (by simpa [isInner] using plain) more
  · rw [same, List.cons_append, List.cons_append, splitLines_escape (by decide),
      splitLines_inner digits (by simpa [isInner] using plain) more]
    simp [Function.comp_def]

/-- The number of quotes at the beginning of a text. -/
def quotesFirst (quote : Char) (text : Text) : Nat :=
  (text.takeWhile (· == quote)).length

theorem quotesFirst_cons_self (quote : Char) (text : Text) :
    quotesFirst quote (quote :: text) = quotesFirst quote text + 1 := by
  simp [quotesFirst]

theorem quotesFirst_cons_ne {quote char : Char} (different : char ≠ quote) (text : Text) :
    quotesFirst quote (char :: text) = 0 := by
  simp [quotesFirst, different]

/-- Behind at most two quotes, the three closing quotes are found only at the end of the text. -/
theorem closing?_append {quote : Char} {text : Text} (short : quotesFirst quote text ≤ 2)
    {rest : Text} (outside : NoQuote quote rest) :
    closing? quote (text ++ quote :: quote :: quote :: rest) = some (text, rest) ∨
      closing? quote (text ++ quote :: quote :: quote :: rest) = none := by
  have stops : rest.takeWhile (· == quote) = [] := by
    cases rest with
    | nil => rfl
    | cons first rest =>
        have different : first ≠ quote := by simpa [NoQuote] using outside
        simp [different]
  match text with
  | [] => simp [closing?, List.isPrefixOf?, stops]
  | [first] =>
      by_cases one : first = quote
      · subst one
        simp [closing?, List.isPrefixOf?, stops]
      · exact Or.inr (closing?_ne one _)
  | [first, second] =>
      by_cases one : first = quote
      · by_cases two : second = quote
        · subst one two
          simp [closing?, List.isPrefixOf?, stops]
        · simp [closing?, List.isPrefixOf?, one, Ne.symm two]
      · exact Or.inr (closing?_ne one _)
  | first :: second :: third :: tail =>
      refine Or.inr ?_
      by_cases all : first = quote ∧ second = quote ∧ third = quote
      · obtain ⟨one, two, three⟩ := all
        simp [quotesFirst, one, two, three] at short
      · have none : List.isPrefixOf? [quote, quote, quote]
            (first :: second :: third :: tail ++ quote :: quote :: quote :: rest) = none := by
          refine Option.eq_none_iff_forall_ne_some.mpr fun after found => all ?_
          have same := List.isPrefixOf?_eq_some_iff_append_eq.mp found
          simp only [List.cons_append, List.cons.injEq] at same
          exact ⟨same.1.symm, same.2.1.symm, same.2.2.1.symm⟩
        rw [closing?, none]
        rfl

/-- Three quotes end a string. -/
theorem splitLines_closing {hasEscapes : Bool} {quote : Char} {text body rest : Text}
    (closed : closing? quote (text ++ quote :: quote :: quote :: rest) = some (body, rest)) :
    splitLines hasEscapes quote (text ++ quote :: quote :: quote :: rest) = some (body, rest) := by
  match text with
  | [] => rw [List.nil_append, splitLines, ← List.nil_append (quote :: _), closed]
  | [first] => rw [List.cons_append, List.nil_append, splitLines, ← List.singleton_append, closed]
  | first :: second :: tail =>
      rw [List.cons_append, List.cons_append, splitLines, ← List.cons_append, ← List.cons_append,
        closed]

/-- An escaped character does not begin with a quote. -/
theorem quotesFirst_escapeChar (char : Char) (text : Text) :
    quotesFirst '"' (escapeChar char ++ text) = 0 := by
  rcases escapeChar_cases char with ⟨plain, same⟩ | ⟨next, digits, same, _⟩
  · simp only [isInner, Bool.and_eq_true, bne_iff_ne] at plain
    rw [same]
    exact quotesFirst_cons_ne plain.1 text
  · rw [same]
    exact quotesFirst_cons_ne (by decide) _

/-- Never more than two quotes stand in a row in an escaped text, together with those in front of
it. -/
theorem quotesFirst_escapeLines {run : Nat} (few : run ≤ 2) (text : Text) :
    quotesFirst '"' (escapeLines run text) + run ≤ 2 := by
  fun_induction escapeLines run text with
  | case1 run => simpa [quotesFirst] using few
  | case2 run rest _ => simpa [quotesFirst_cons_ne] using few
  | case3 run rest less inductionHypothesis =>
      have later := inductionHypothesis (by omega)
      rw [quotesFirst_cons_self]
      omega
  | case4 run rest _ _ => simpa [quotesFirst_cons_ne] using few
  | case5 run char rest _ _ _ => simpa [quotesFirst_escapeChar] using few

/-- The escaped text between the opening and the closing quotes is found again. -/
theorem splitLines_escapeLines {run : Nat} (few : run ≤ 2) (text : Text) {rest : Text}
    (outside : NoQuote '"' rest) :
    splitLines true '"' (escapeLines run text ++ '"' :: '"' :: '"' :: rest) =
      some (escapeLines run text, rest) := by
  have more (text : Text) : text ++ '"' :: '"' :: '"' :: rest ≠ [] := by simp
  have short := Nat.le_trans (Nat.le_add_right _ _) (quotesFirst_escapeLines few text)
  fun_induction escapeLines run text with
  | case1 run =>
      rcases closing?_append short outside with closed | opened
      · exact splitLines_closing closed
      · simp [closing?, List.isPrefixOf?] at opened
  | case2 run text inductionHypothesis =>
      have later := inductionHypothesis (by omega)
        (Nat.le_trans (Nat.le_add_right _ _) (quotesFirst_escapeLines (by omega) text))
      rw [List.cons_append,
        splitLines_cons true (closing?_ne (by decide) _) (by decide) (more _), later]
      rfl
  | case3 run text less inductionHypothesis =>
      have later := inductionHypothesis (by omega)
        (Nat.le_trans (Nat.le_add_right _ _) (quotesFirst_escapeLines (by omega) text))
      rcases closing?_append short outside with closed | opened
      · exact splitLines_closing closed
      · rw [List.cons_append] at opened ⊢
        rw [splitLines_cons true opened (by decide) (more _), later]
        rfl
  | case4 run text _ inductionHypothesis =>
      have later := inductionHypothesis (by omega)
        (Nat.le_trans (Nat.le_add_right _ _) (quotesFirst_escapeLines (by omega) text))
      rw [List.cons_append, List.cons_append, splitLines_escape (by decide), later]
      rfl
  | case5 run char text _ _ inductionHypothesis =>
      have later := inductionHypothesis (by omega)
        (Nat.le_trans (Nat.le_add_right _ _) (quotesFirst_escapeLines (by omega) text))
      rw [List.append_assoc, splitLines_escapeChar char (more _), later]
      rfl

/-- Escapes are resolved, and line feeds and quotes stand for themselves. -/
theorem Style.decode_escapeLines (run : Nat) (text : Text) :
    Style.decode ⟨true, true⟩ .plain (escapeLines run text) = some text := by
  fun_induction escapeLines run text with
  | case1 run => rfl
  | case2 run text inductionHypothesis => rw [decode_plain rfl, inductionHypothesis]; rfl
  | case3 run text _ inductionHypothesis => rw [decode_plain rfl, inductionHypothesis]; rfl
  | case4 run text _ inductionHypothesis =>
      simp [decode, Style.step, stepPlain, stepEscape, inductionHypothesis]
  | case5 run char text _ _ inductionHypothesis =>
      rw [decode_escapeChar rfl, inductionHypothesis]
      rfl

/-- An escaped character does not begin with an end of a line. -/
theorem escapeChar_head (char : Char) (rest : Text) :
    (escapeChar char ++ rest).head? ≠ some '\n' ∧ (escapeChar char ++ rest).head? ≠ some '\r' := by
  unfold escapeChar
  split
  case h_8 quote backslash _ _ lineFeed _ carriage =>
    split
    next => simp [escapeCode]
    next =>
      have noFeed : char ≠ '\n' := lineFeed
      have noCarriage : char ≠ '\r' := carriage
      simp [noFeed, noCarriage]
  all_goals simp

/-- Only the end of a line is dropped at the beginning. -/
theorem dropBreak_same {text : Text} (noFeed : text.head? ≠ some '\n')
    (noCarriage : text.head? ≠ some '\r') : dropBreak text = text := by
  unfold dropBreak
  split
  · simp at noFeed
  · simp at noCarriage
  · rfl

theorem mem_opening {char : Char} {text : Text} (member : char ∈ opening text) : char = '\n' := by
  unfold opening at member
  split at member <;> simp_all

/-- The line break that the writer puts in front of a text with several lines is dropped. -/
theorem dropBreak_opening_escapeLines (text : Text) :
    dropBreak (opening text ++ escapeLines 0 text) = escapeLines 0 text := by
  unfold opening
  split
  next => rfl
  next noFeed =>
    rw [List.nil_append]
    cases text with
    | nil => rfl
    | cons char text =>
        unfold escapeLines
        split
        next => simp_all
        next => simp_all
        next => rfl
        next => exact dropBreak_same (escapeChar_head _ _).1 (escapeChar_head _ _).2

/-- A basic string of several lines is read back. -/
theorem readQuoted_quoteBasicLines (text : Text) {rest : Text} (outside : NoQuote '"' rest) :
    readQuoted (quoteBasicLines text ++ rest) = some (text, rest) := by
  have split : splitLines true '"'
      (opening text ++ escapeLines 0 text ++ '"' :: '"' :: '"' :: rest) =
        some (opening text ++ escapeLines 0 text, rest) := by
    have plain : ∀ char ∈ opening text, char ≠ '"' ∧ (true && char == '\\') = false := by
      intro char member
      rw [mem_opening member]
      decide
    rw [List.append_assoc, splitLines_inner _ plain (by simp),
      splitLines_escapeLines (Nat.zero_le 2) text outside]
    rfl
  simp only [quoteBasicLines, List.append_assoc, List.cons_append, List.nil_append] at split ⊢
  simp only [readQuoted, split, Option.bind_some, dropBreak_opening_escapeLines,
    Style.decode_escapeLines, Option.map_some]

/-- A text without control characters may stand in literal quotes. -/
theorem Style.decode_literal {style : Style} (literal : style.hasEscapes = false) {text : Text}
    (plain : ∀ char ∈ text, isControl char = false ∨ (style.hasLines = true ∧ char = '\n')) :
    style.decode .plain text = some text := by
  induction text with
  | nil => rfl
  | cons char text inductionHypothesis =>
      have step : stepPlain style char = some (.plain, [char]) := by
        rcases plain char List.mem_cons_self with noControl | ⟨lines, same⟩
        · have noFeed : char ≠ '\n' := by
            rintro rfl
            simp [isControl] at noControl
          have noCarriage : char ≠ '\r' := by
            rintro rfl
            simp [isControl] at noControl
          simp [stepPlain, literal, noFeed, noCarriage, noControl]
        · simp [stepPlain, literal, lines, same]
      rw [decode_plain step, inductionHypothesis fun char member =>
        plain char (List.mem_cons_of_mem _ member)]
      rfl

/-- A literal string is read back if it has no quote and no control character. -/
theorem readQuoted_quoteLiteral {text : Text} (noQuote : '\'' ∉ text)
    (plain : ∀ char ∈ text, isControl char = false) {rest : Text} (outside : NoQuote '\'' rest) :
    readQuoted (quoteLiteral text ++ rest) = some (text, rest) := by
  have decoded : Style.decode ⟨false, false⟩ .plain text = some text :=
    Style.decode_literal rfl fun char member => Or.inl (plain char member)
  have line : readQuotedLine (quoteLiteral text ++ rest) = some (text, rest) := by
    simp only [quoteLiteral, List.cons_append, List.append_assoc, List.nil_append, readQuotedLine,
      Text.cutAt?_append noQuote, Option.bind_some, decoded, Option.map_some]
  have single : ∀ after, quoteLiteral text ++ rest ≠ '\'' :: '\'' :: '\'' :: after := by
    intro after same
    cases text with
    | nil =>
        simp [quoteLiteral] at same
        simp [NoQuote, same] at outside
    | cons char text =>
        simp [quoteLiteral] at same
        simp [same.1] at noQuote
  rw [readQuoted, line]
  · simp [quoteLiteral]
  · exact single

/-- The longest run of quotes is at least as long as the first one. -/
theorem quotesFirst_le_longestRun (quote : Char) (run : Nat) (text : Text) :
    quotesFirst quote text + run ≤ longestRun quote run text := by
  fun_induction longestRun quote run text with
  | case1 run => simp [quotesFirst]
  | case2 run text inductionHypothesis =>
      rw [quotesFirst_cons_self]
      omega
  | case3 run char text different _ =>
      rw [quotesFirst_cons_ne different]
      omega

/-- More quotes in front make no run shorter. -/
theorem longestRun_mono (quote : Char) {less more : Nat} (le : less ≤ more) (text : Text) :
    longestRun quote less text ≤ longestRun quote more text := by
  induction text generalizing less more with
  | nil => simpa [longestRun] using le
  | cons char text inductionHypothesis =>
      unfold longestRun
      split
      next => exact inductionHypothesis (by omega)
      next => omega

theorem longestRun_tail {quote char : Char} (text : Text) :
    longestRun quote 0 text ≤ longestRun quote 0 (char :: text) := by
  rw [longestRun]
  split
  next => exact longestRun_mono quote (Nat.zero_le 1) text
  next => exact Nat.le_max_right 0 _

/-- Runs of two quotes or fewer end no literal string. -/
theorem splitLines_literal {quote : Char} {text : Text} (short : longestRun quote 0 text ≤ 2)
    {rest : Text} (outside : NoQuote quote rest) :
    splitLines false quote (text ++ quote :: quote :: quote :: rest) = some (text, rest) := by
  have first := Nat.le_trans (quotesFirst_le_longestRun quote 0 text) short
  induction text with
  | nil =>
      rcases closing?_append first outside with closed | opened
      · exact splitLines_closing closed
      · simp [closing?, List.isPrefixOf?] at opened
  | cons char text inductionHypothesis =>
      have shorter := Nat.le_trans (longestRun_tail text) short
      have later := inductionHypothesis shorter
        (Nat.le_trans (quotesFirst_le_longestRun quote 0 text) shorter)
      rcases closing?_append first outside with closed | opened
      · exact splitLines_closing closed
      · rw [List.cons_append] at opened ⊢
        rw [splitLines_cons false opened rfl (by simp), later]
        rfl

/-- The line feed that opens a string is dropped, and no other one. -/
theorem dropBreak_opening_literal {text : Text} (noCarriage : '\r' ∉ text) :
    dropBreak (opening text ++ text) = text := by
  unfold opening
  split
  next => rfl
  next noFeed =>
    rw [List.nil_append]
    apply dropBreak_same
    · exact fun first => noFeed (List.mem_of_head? first)
    · exact fun first => noCarriage (List.mem_of_head? first)

/-- A literal string of several lines is read back if no run of quotes in it is too long. -/
theorem readQuoted_quoteLiteralLines {text : Text} (short : longestRun '\'' 0 text ≤ 2)
    (plain : ∀ char ∈ text, needsEscape char = false) {rest : Text} (outside : NoQuote '\'' rest) :
    readQuoted (quoteLiteralLines text ++ rest) = some (text, rest) := by
  have split : splitLines false '\''
      (opening text ++ text ++ '\'' :: '\'' :: '\'' :: rest) =
        some (opening text ++ text, rest) := by
    have plain : ∀ char ∈ opening text, char ≠ '\'' ∧ (false && char == '\\') = false := by
      intro char member
      rw [mem_opening member]
      decide
    rw [List.append_assoc, splitLines_inner _ plain (by simp), splitLines_literal short outside]
    rfl
  have noCarriage : '\r' ∉ text := fun member => by
    have absurd := plain '\r' member
    simp [needsEscape, isControl] at absurd
  have decoded : Style.decode ⟨false, true⟩ .plain text = some text :=
    Style.decode_literal rfl fun char member => by
      have kept := plain char member
      simp only [needsEscape, Bool.and_eq_false_imp, bne_eq_false_iff_eq] at kept
      cases control : isControl char with
      | false => exact Or.inl rfl
      | true => exact Or.inr ⟨rfl, kept control⟩
  simp only [quoteLiteralLines, List.append_assoc, List.cons_append, List.nil_append] at split ⊢
  simp only [readQuoted, split, Option.bind_some, dropBreak_opening_literal noCarriage, decoded,
    Option.map_some]

/-- A text on one line that needs no escapes has no control characters. -/
theorem not_isControl_of_needsEscape {text : Text}
    (uncoded : ∀ char ∈ text, needsEscape char = false) (noFeed : '\n' ∉ text) :
    ∀ char ∈ text, isControl char = false := by
  intro char member
  have kept := uncoded char member
  have different : char ≠ '\n' := fun same => noFeed (same ▸ member)
  simpa [needsEscape, different] using kept

/-- Every text is read back from its written form. -/
theorem readQuoted_quote (text : Text) {rest : Text} (basic : NoQuote '"' rest)
    (literal : NoQuote '\'' rest) : readQuoted (quote text ++ rest) = some (text, rest) := by
  unfold quote
  dsimp only
  split
  next => exact readQuoted_quoteBasic text basic
  split
  next conditions =>
    simp at conditions
    obtain ⟨⟨uncoded, noQuote⟩, noFeed⟩ := conditions
    exact readQuoted_quoteLiteral noQuote (not_isControl_of_needsEscape uncoded noFeed) literal
  split
  next => exact readQuoted_quoteBasicLines text basic
  split
  next conditions =>
    simp at conditions
    exact readQuoted_quoteLiteralLines conditions.2 conditions.1 literal
  split
  next => exact readQuoted_quoteBasicLines text basic
  next => exact readQuoted_quoteBasic text basic

/-- A quoted text begins with a quote. -/
theorem quote_head (text : Text) :
    (quote text).head? = some '"' ∨ (quote text).head? = some '\'' := by
  unfold quote
  dsimp only
  repeat' split
  all_goals simp [quoteBasic, quoteLiteral, quoteBasicLines, quoteLiteralLines]

end HouseStyle.Toml
