/-
This file proves that numbers, flags, quoted texts and lists of texts are read back.
-/

import HouseStyle.Toml.Reader
import HouseStyle.Proofs.Toml.Quoted

namespace HouseStyle.Toml

/-- A decimal digit has its value. -/
theorem digitValue?_of_isDigit {char : Char} (digit : char.isDigit = true) :
    digitValue? 10 char = some (char.toNat - '0'.toNat) := by
  have bounds : 48 ≤ char.toNat ∧ char.toNat ≤ 57 := by
    simpa [Char.isDigit, UInt32.le_iff_toNat_le] using digit
  have small : char.toNat - '0'.toNat < 10 := by
    have : '0'.toNat = 48 := rfl
    omega
  simp [digitValue?, digit]
  exact small

/-- All decimal digits have their values. -/
theorem mapM_digitValue? {digits : Text} (all : ∀ char ∈ digits, char.isDigit = true) :
    digits.mapM (digitValue? 10) = some (digits.map fun char => char.toNat - '0'.toNat) := by
  induction digits with
  | nil => rfl
  | cons char digits inductionHypothesis =>
      simp [digitValue?_of_isDigit (all char List.mem_cons_self),
        inductionHypothesis fun other member => all other (List.mem_cons_of_mem _ member)]

theorem isDigit_of_mem_ofNat {number : Nat} {char : Char} (member : char ∈ Text.ofNat number) :
    char.isDigit = true :=
  Nat.isDigit_of_mem_toDigits (by decide) (by decide) member

/-- A number is read back from its digits. -/
theorem natural?_ofNat (number : Nat) : natural? 10 (Text.ofNat number) = some number := by
  have single : List.splitOn '_' (Text.ofNat number) = [Text.ofNat number] :=
    List.splitOn_eq_singleton Nat.underscore_not_in_toDigits
  have filled : Text.ofNat number ≠ [] := Nat.toDigits_ne_nil
  have value : ofDigits 10 ((Text.ofNat number).map fun char => char.toNat - '0'.toNat) =
      number := by
    rw [ofDigits, List.foldl_map, ← Nat.ofDigitChars_eq_foldl]
    exact Nat.ofDigitChars_ten_toDigits
  rw [natural?, single]
  simp only [List.any_cons, List.any_nil, Bool.or_false, List.isEmpty_iff, filled, if_false,
    List.flatten_cons, List.flatten_nil, List.append_nil,
    mapM_digitValue? fun _ => isDigit_of_mem_ofNat, Option.map_some, value]

theorem digitChar_ne_zero : ∀ digit < 10, 0 < digit → Nat.digitChar digit ≠ '0' := by
  decide

/-- A positive number has no zero in front. -/
theorem ofNat_head_ne_zero {number : Nat} (positive : 0 < number) :
    (Text.ofNat number).head? ≠ some '0' := by
  induction number using Nat.strongRecOn with
  | ind number inductionHypothesis =>
      rw [Text.ofNat, Nat.toDigits_eq_if (by decide)]
      split
      next small => simpa using digitChar_ne_zero number small positive
      next large =>
        have higher := inductionHypothesis (number / 10) (by omega) (by omega)
        rw [Text.ofNat] at higher
        obtain ⟨first, rest, same⟩ := List.exists_cons_of_ne_nil
          (@Nat.toDigits_ne_nil (number / 10) 10)
        simpa [same] using higher

theorem decimal?_ofNat (number : Nat) : decimal? (Text.ofNat number) = some number := by
  rcases Nat.eq_zero_or_pos number with rfl | positive
  · rfl
  · rw [decimal?, natural?_ofNat]
    intro first rest same
    exact ofNat_head_ne_zero positive (by rw [same]; rfl)

/-- A number is read back without a sign. -/
theorem number?_ofNat (number : Nat) : number? (Text.ofNat number) = some (.ofNat number) := by
  have absent : ∀ char ∈ ['x', 'o', 'b', '+', '-'], char ∉ Text.ofNat number := by
    have noDigit : ∀ char ∈ ['x', 'o', 'b', '+', '-'], char.isDigit = false := by
      simp only [List.forall_mem_cons]
      exact ⟨by decide, by decide, by decide, by decide, by decide, by simp⟩
    intro char other member
    simpa [noDigit char other] using isDigit_of_mem_ofNat member
  rw [number?, decimal?_ofNat]
  · rfl
  all_goals
    intro rest same
    simp [same] at absent

/-- A number is not taken for another value. -/
theorem scalar?_ofNat (number : Nat) :
    scalar? (Text.ofNat number) = some (.number (.ofNat number)) := by
  have letter : 't' ∉ Text.ofNat number ∧ 'f' ∉ Text.ofNat number := by
    constructor <;> intro member <;> simpa using isDigit_of_mem_ofNat member
  have noTrue : Text.ofNat number ≠ "true".toList := by
    intro same
    simp [same] at letter
  have noFalse : Text.ofNat number ≠ "false".toList := by
    intro same
    simp [same] at letter
  rw [scalar?, if_neg noTrue, if_neg noFalse, number?_ofNat]
  rfl

/-- A line feed ends a value that is not quoted. -/
theorem readScalar_lineFeed {word : Text} (plain : ∀ char ∈ word, isScalarChar char = true)
    (rest : Text) :
    readScalar (word ++ '\n' :: rest) = (scalar? word).map fun value => (value, '\n' :: rest) := by
  have stop : isScalarChar '\n' = false := rfl
  rw [readScalar, List.takeWhile_append_of_pos plain, List.dropWhile_append_of_pos plain]
  simp [stop]

/-- A word is a value up to the end of its line. -/
theorem readValue_scalar {word : Text} (plain : ∀ char ∈ word, isScalarChar char = true)
    (fuel : Nat) (rest : Text) :
    readValue (fuel + 1) (word ++ '\n' :: rest) =
      (scalar? word).map fun value => (value, '\n' :: rest) := by
  have noOpener : ∀ char ∈ ['[', '\x7b', '"', '\''], isScalarChar char = false ∧ char ≠ '\n' := by
    simp only [List.forall_mem_cons]
    exact ⟨by decide, by decide, by decide, by decide, by simp⟩
  have first {char : Char} {after : Text} (same : word ++ '\n' :: rest = char :: after) :
      char ∉ ['[', '\x7b', '"', '\''] := by
    intro opener
    cases word with
    | nil => exact (noOpener char opener).2 (List.cons.inj same).1.symm
    | cons start word =>
        have scalar := plain start List.mem_cons_self
        rw [(List.cons.inj same).1, (noOpener char opener).1] at scalar
        exact Bool.false_ne_true scalar
  rw [← readScalar_lineFeed plain rest, readValue]
  all_goals
    intro after same
    exact first same (by decide)

theorem readValue_number (number fuel : Nat) (rest : Text) :
    readValue (fuel + 1) (Text.ofNat number ++ '\n' :: rest) =
      some (.number (.ofNat number), '\n' :: rest) := by
  have plain : ∀ char ∈ Text.ofNat number, isScalarChar char = true := by
    intro char member
    simp [isScalarChar, Char.isAlphanum, isDigit_of_mem_ofNat member]
  rw [readValue_scalar plain, scalar?_ofNat]
  rfl

/-- A quoted text is read back as a value. -/
theorem readValue_quote (text : Text) (fuel : Nat) (rest : Text) (basic : NoQuote '"' rest)
    (literal : NoQuote '\'' rest) :
    readValue (fuel + 1) (quote text ++ rest) = some (.text text, rest) := by
  have read := readQuoted_quote text basic literal
  rcases quote_head text with first | first
  · obtain ⟨tail, same⟩ := List.head?_eq_some_iff.mp first
    rw [same] at read ⊢
    simp only [List.cons_append] at read ⊢
    rw [readValue, read]
    rfl
  · obtain ⟨tail, same⟩ := List.head?_eq_some_iff.mp first
    rw [same] at read ⊢
    simp only [List.cons_append] at read ⊢
    rw [readValue, read]
    rfl

/-- A flag is read back as a value. -/
theorem readValue_flag (flag : Bool) (fuel : Nat) (rest : Text) :
    readValue (fuel + 1) ((if flag then "true".toList else "false".toList) ++ '\n' :: rest) =
      some (.flag flag, '\n' :: rest) := by
  cases flag
  · rw [readValue_scalar (List.all_eq_true.mp (by decide))]
    rfl
  · rw [readValue_scalar (List.all_eq_true.mp (by decide))]
    rfl

/-- A quoted text stands at the end of a gap. -/
theorem skipGap_quote (text rest : Text) :
    skipGap false (quote text ++ rest) = some (quote text ++ rest) := by
  rcases quote_head text with first | first
  all_goals
    obtain ⟨tail, same⟩ := List.head?_eq_some_iff.mp first
    rw [same]
    rfl

theorem skipGap_indentedQuote (text rest : Text) :
    skipGap false ('\n' :: ("    ".toList ++ (quote text ++ rest))) =
      some (quote text ++ rest) :=
  skipGap_quote text rest

theorem quote_append_head_ne (text rest : Text) : (quote text ++ rest).head? ≠ some ']' := by
  rcases quote_head text with first | first <;> simp [List.head?_append, first]

/-- An item of an array is read, and then a comma or the end of the array follows. -/
theorem readItems_item {fuel : Nat} {start first rest : Text} {item : Value}
    (gap : skipGap false start = some first) (opened : first.head? ≠ some ']')
    (value : readValue fuel first = some (item, rest)) :
    readItems (fuel + 1) start =
      match skipGap false rest with
      | some (',' :: rest) => (readItems fuel rest).map fun (items, rest) => (item :: items, rest)
      | some (']' :: rest) => some ([item], rest)
      | _ => none := by
  rw [readItems, gap]
  split
  · contradiction
  next after same =>
    simp only [Option.some.injEq] at same
    simp [same] at opened
  next next _ same =>
    obtain rfl : first = next := by simpa using same
    exact value ▸ rfl

/-- Every item of a list with several lines is read with the comma behind it. -/
theorem readItems_lines (items : List Text) (fuel : Nat) (rest : Text) :
    readItems (fuel + items.length + 2)
        ('\n' :: (items.flatMap (fun item => "    ".toList ++ quote item ++ [',', '\n']) ++
          ']' :: rest)) =
      some (items.map .text, rest) := by
  induction items with
  | nil => rfl
  | cons item items inductionHypothesis =>
      let lines := items.flatMap (fun item => "    ".toList ++ quote item ++ [',', '\n'])
      have gap : skipGap false ('\n' :: ((item :: items).flatMap
          (fun item => "    ".toList ++ quote item ++ [',', '\n']) ++ ']' :: rest)) =
            some (quote item ++ ',' :: '\n' :: (lines ++ ']' :: rest)) := by
        rw [← skipGap_indentedQuote]
        simp [lines]
      have value := readValue_quote item (fuel + items.length + 1)
        (',' :: '\n' :: (lines ++ ']' :: rest)) (by simp [NoQuote]) (by simp [NoQuote])
      have opened := quote_append_head_ne item (',' :: '\n' :: (lines ++ ']' :: rest))
      rw [show fuel + (item :: items).length + 2 = fuel + items.length + 2 + 1 by simp; omega,
        readItems_item gap opened value]
      simp only [show skipGap false (',' :: '\n' :: (lines ++ ']' :: rest)) =
        some (',' :: '\n' :: (lines ++ ']' :: rest)) from rfl]
      rw [inductionHypothesis]
      rfl

/-- A list of texts is read back from its written form. -/
theorem readValue_writeTexts (items : List Text) (fuel : Nat) (rest : Text) :
    readValue (fuel + items.length + 3) (writeTexts items ++ rest) =
      some (.list (items.map .text), rest) := by
  have step (tail : Text) : readValue (fuel + items.length + 3) ('[' :: tail) =
      (readItems (fuel + items.length + 2) tail).map fun (items, rest) => (.list items, rest) := rfl
  match items with
  | [] => rfl
  | [item] =>
      have value := readValue_quote item (fuel + 1) (']' :: rest) (by simp [NoQuote])
        (by simp [NoQuote])
      have closed : skipGap false (']' :: rest) = some (']' :: rest) := rfl
      simp only [writeTexts, List.cons_append, List.append_assoc, List.nil_append]
      rw [step, List.length_singleton, readItems_item (skipGap_quote item _)
        (quote_append_head_ne item _) value, closed]
      rfl
  | first :: second :: others =>
      have lines := readItems_lines (first :: second :: others) fuel rest
      simp only [writeTexts, List.cons_append, List.append_assoc, List.nil_append] at lines ⊢
      rw [step, lines]
      rfl

end HouseStyle.Toml
