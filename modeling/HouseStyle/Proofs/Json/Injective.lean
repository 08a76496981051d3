/-
This file proves that a JSON document can be read off its written form, whatever text stands behind
it.
-/

import HouseStyle.Json.Basic

namespace HouseStyle.Json

/-- The value of a digit in base 16. Letters are small. -/
def hexValue (digit : Char) : Nat :=
  if digit.isDigit then digit.toNat - '0'.toNat else digit.toNat - 'a'.toNat + 10

/-- A hexadecimal digit has its value. -/
theorem hexValue_digitChar : ∀ value < 16, hexValue (Nat.digitChar value) = value := by
  decide

/-- The character that a letter stands for behind a backslash. -/
def unescaped (letter : Char) : Char :=
  match letter with
  | 'b' => '\x08'
  | 't' => '\x09'
  | 'n' => '\x0a'
  | 'f' => '\x0c'
  | 'r' => '\x0d'
  | _ => letter

/-- The first character of a written text, and what is written behind it. A quote ends the text. -/
def readChar? : Text → Option (Char × Text)
  | [] => none
  | '"' :: _ => none
  | '\\' :: 'u' :: _ :: _ :: high :: low :: rest =>
      some (Char.ofNat (16 * hexValue high + hexValue low), rest)
  | '\\' :: letter :: rest => some (unescaped letter, rest)
  | char :: rest => some (char, rest)

/-- A character is read back from its escaped form, whatever follows it. -/
theorem readChar?_escapeChar (char : Char) (rest : Text) :
    readChar? (escapeChar char ++ rest) = some (char, rest) := by
  unfold escapeChar
  split
  case h_8 noQuote noSlash _ _ _ _ _ =>
    split
    next control =>
      have high := hexValue_digitChar (char.toNat / 16) (by omega)
      have low := hexValue_digitChar (char.toNat % 16) (by omega)
      have code : 16 * (char.toNat / 16) + char.toNat % 16 = char.toNat := by omega
      simp [hexPair, readChar?, high, low, code, Char.ofNat_toNat]
    next =>
      rw [List.singleton_append, readChar?]
      · exact noQuote
      · intro _ _ _ _ _ same
        exact absurd same noSlash
      · intro _ _ same
        exact absurd same noSlash
  all_goals rfl

/-- Two texts that are written alike are the same text, and the same stands behind them. -/
theorem flatMap_escapeChar_append_inj {first second rest other : Text}
    (same : first.flatMap escapeChar ++ '"' :: rest = second.flatMap escapeChar ++ '"' :: other) :
    first = second ∧ rest = other := by
  induction first generalizing second with
  | nil =>
      cases second with
      | nil => exact ⟨rfl, (List.cons.inj same).2⟩
      | cons char second =>
          have read := congrArg readChar? same
          rw [List.flatMap_cons, List.append_assoc, readChar?_escapeChar] at read
          exact absurd read (by simp [readChar?])
  | cons char first inductionHypothesis =>
      have read := congrArg readChar? same
      rw [List.flatMap_cons, List.append_assoc, readChar?_escapeChar] at read
      cases second with
      | nil => exact absurd read (by simp [readChar?])
      | cons next second =>
          rw [List.flatMap_cons, List.append_assoc, readChar?_escapeChar, Option.some.injEq,
            Prod.mk.injEq] at read
          obtain ⟨rfl, later⟩ := read
          obtain ⟨rfl, behind⟩ := inductionHypothesis later
          exact ⟨rfl, behind⟩

/-- A quoted text ends at its own quote, so it and what follows it are determined. -/
theorem quote_append_inj {first second rest other : Text}
    (same : quote first ++ rest = quote second ++ other) : first = second ∧ rest = other := by
  refine flatMap_escapeChar_append_inj ?_
  simpa [quote] using same

/-- A number ends where the text goes on with no digit. -/
def EndsNumber (rest : Text) : Prop :=
  ∀ char ∈ rest.head?, char.isDigit = false

theorem EndsNumber.cons {char : Char} (sign : char.isDigit = false) (rest : Text) :
    EndsNumber (char :: rest) := by
  intro first isHead
  rwa [← Option.some.inj isHead]

theorem EndsNumber.ofBreak {rest : Text} (breaks : rest.head? = some '\n') : EndsNumber rest := by
  intro char isHead
  obtain rfl := Option.some.inj (breaks.symm.trans isHead)
  decide

theorem isDigit_of_mem_ofNat {number : Nat} {char : Char} (member : char ∈ Text.ofNat number) :
    char.isDigit = true :=
  Nat.isDigit_of_mem_toDigits (by decide) (by decide) member

/-- The digits of a number end where the number ends. -/
theorem takeWhile_ofNat_append (number : Nat) {rest : Text} (ends : EndsNumber rest) :
    (Text.ofNat number ++ rest).takeWhile Char.isDigit = Text.ofNat number := by
  have stops : rest.takeWhile Char.isDigit = [] := by
    cases rest with
    | nil => rfl
    | cons char rest => simp [ends char rfl]
  rw [List.takeWhile_append_of_pos fun _ => isDigit_of_mem_ofNat, stops, List.append_nil]

/-- A number that ends and what follows it are determined by the text. -/
theorem ofNat_append_inj {first second : Nat} {rest other : Text} (ends : EndsNumber rest)
    (alsoEnds : EndsNumber other) (same : Text.ofNat first ++ rest = Text.ofNat second ++ other) :
    first = second ∧ rest = other := by
  have digits := congrArg (List.takeWhile Char.isDigit) same
  rw [takeWhile_ofNat_append first ends, takeWhile_ofNat_append second alsoEnds] at digits
  have value (number : Nat) : Nat.ofDigitChars 10 (Text.ofNat number) 0 = number :=
    Nat.ofDigitChars_ten_toDigits
  refine ⟨?_, List.append_cancel_left (digits ▸ same)⟩
  rw [← value first, digits, value second]

/-- The first character of a written document tells which kind of document it is. The digits tell
the same, and so do the first letters of the two flags. -/
def mark : Json → Char
  | flag _ => 't'
  | number _ => '0'
  | text _ => '"'
  | list _ => '['
  | object _ => '\x7b'

def markOf (char : Char) : Char :=
  if char.isDigit then '0' else if char = 'f' then 't' else char

/-- The first character of a document shows its kind. -/
theorem map_head?_writeAt (depth : Nat) (document : Json) (rest : Text) :
    (document.writeAt depth ++ rest).head?.map markOf = some document.mark := by
  match document with
  | .flag true | .flag false | .text _ | .list [] | .object [] | .list (_ :: _)
  | .object ((_, _) :: _) => rfl
  | .number value =>
      obtain ⟨first, others, shape⟩ := List.exists_cons_of_ne_nil
        (show Text.ofNat value ≠ [] from Nat.toDigits_ne_nil)
      have digit : first.isDigit = true := isDigit_of_mem_ofNat (shape ▸ List.mem_cons_self)
      simp [writeAt, shape, markOf, digit, mark]

/-- Two documents of the same kind. -/
inductive Alike : Json → Json → Prop where
  | flag (first second : Bool) : Alike (.flag first) (.flag second)
  | number (first second : Nat) : Alike (.number first) (.number second)
  | text (first second : Text) : Alike (.text first) (.text second)
  | list (first second : List Json) : Alike (.list first) (.list second)
  | object (first second : List (Text × Json)) : Alike (.object first) (.object second)

/-- Documents with the same mark are of the same kind. -/
theorem alike_of_mark {first second : Json} (same : first.mark = second.mark) :
    Alike first second := by
  cases first <;> cases second <;> first
    | constructor
    | exact absurd same (by simp [mark])

/-- Documents that start the same text are of the same kind. -/
theorem alike_of_append {depth : Nat} {first second : Json} {rest other : Text}
    (same : first.writeAt depth ++ rest = second.writeAt depth ++ other) : Alike first second := by
  have marks := congrArg (fun text => text.head?.map markOf) same
  simp only [map_head?_writeAt] at marks
  exact alike_of_mark (Option.some.inj marks)

theorem endsNumber_newLine (depth : Nat) (rest : Text) : EndsNumber (newLine depth ++ rest) :=
  EndsNumber.cons (by decide) _

/-- A number ends in front of further items. -/
theorem endsNumber_writeItems (depth : Nat) (items : List Json) {rest : Text}
    (ends : EndsNumber rest) : EndsNumber (writeItems depth items ++ rest) := by
  cases items with
  | nil => exact ends
  | cons item items => exact EndsNumber.cons (by decide) _

/-- A number ends in front of further fields. -/
theorem endsNumber_writeFields (depth : Nat) (fields : List (Text × Json)) {rest : Text}
    (ends : EndsNumber rest) : EndsNumber (writeFields depth fields ++ rest) := by
  cases fields with
  | nil => exact ends
  | cons field fields => exact EndsNumber.cons (by decide) _

/-- An item stands on its own line behind a comma. -/
theorem writeItems_cons_append (depth : Nat) (item : Json) (items : List Json) (rest : Text) :
    writeItems depth (item :: items) ++ rest =
      ',' :: (newLine depth ++ (item.writeAt depth ++ (writeItems depth items ++ rest))) := by
  simp [writeItems]

/-- A field stands on its own line behind a comma. -/
theorem writeFields_cons_append (depth : Nat) (name : Text) (value : Json)
    (fields : List (Text × Json)) (rest : Text) :
    writeFields depth ((name, value) :: fields) ++ rest =
      ',' :: (newLine depth ++ (quote name ++ ([':', ' '] ++ (value.writeAt depth ++
        (writeFields depth fields ++ rest))))) := by
  simp [writeFields]

/-- A list with items starts with the first one inside a bracket. -/
theorem writeAt_list_append (depth : Nat) (item : Json) (items : List Json) (rest : Text) :
    (list (item :: items)).writeAt depth ++ rest =
      '[' :: (newLine (depth + 1) ++ (item.writeAt (depth + 1) ++
        (writeItems (depth + 1) items ++ (newLine depth ++ ']' :: rest)))) := by
  simp [writeAt]

/-- An object with fields starts with the first one inside a brace. -/
theorem writeAt_object_append (depth : Nat) (name : Text) (value : Json)
    (fields : List (Text × Json)) (rest : Text) :
    (object ((name, value) :: fields)).writeAt depth ++ rest =
      '\x7b' :: (newLine (depth + 1) ++ (quote name ++ ([':', ' '] ++ (value.writeAt (depth + 1) ++
        (writeFields (depth + 1) fields ++ (newLine depth ++ '\x7d' :: rest)))))) := by
  simp [writeAt]

mutual

/-- Two documents that are written alike are the same document, and the same stands behind them. -/
theorem writeAt_append_inj (depth : Nat) :
    (first second : Json) → {rest other : Text} → EndsNumber rest → EndsNumber other →
      first.writeAt depth ++ rest = second.writeAt depth ++ other → first = second ∧ rest = other
  | .flag value, second, rest, other, _, _, same => by
      cases alike_of_append same with
      | flag _ another =>
          cases value <;> cases another
          case false.false | true.true => exact ⟨rfl, List.append_cancel_left same⟩
          all_goals exact absurd (List.cons.inj same).1 (by decide)
  | .number value, second, rest, other, ends, alsoEnds, same => by
      cases alike_of_append same with
      | number _ another =>
          obtain ⟨rfl, behind⟩ := ofNat_append_inj ends alsoEnds same
          exact ⟨rfl, behind⟩
  | .text value, second, rest, other, _, _, same => by
      cases alike_of_append same with
      | text _ another =>
          obtain ⟨rfl, behind⟩ := quote_append_inj same
          exact ⟨rfl, behind⟩
  | .list items, second, rest, other, ends, alsoEnds, same => by
      cases alike_of_append same with
      | list _ others =>
          match items, others with
          | [], [] => exact ⟨rfl, List.append_cancel_left same⟩
          | [], _ :: _ | _ :: _, [] => simp [writeAt, newLine] at same
          | item :: items, another :: others =>
              rw [writeAt_list_append, writeAt_list_append] at same
              have inner := List.append_cancel_left (List.cons.inj same).2
              obtain ⟨rfl, later⟩ := writeAt_append_inj (depth + 1) item another
                (endsNumber_writeItems _ _ (endsNumber_newLine _ _))
                (endsNumber_writeItems _ _ (endsNumber_newLine _ _)) inner
              obtain ⟨rfl, close⟩ := writeItems_append_inj (depth + 1) items others rfl rfl later
              have behind := List.append_cancel_left close
              exact ⟨rfl, (List.cons.inj behind).2⟩
  | .object fields, second, rest, other, ends, alsoEnds, same => by
      cases alike_of_append same with
      | object _ others =>
          match fields, others with
          | [], [] => exact ⟨rfl, List.append_cancel_left same⟩
          | [], _ :: _ | _ :: _, [] => simp [writeAt, newLine] at same
          | (name, value) :: fields, (otherName, another) :: others =>
              rw [writeAt_object_append, writeAt_object_append] at same
              have inner := List.append_cancel_left (List.cons.inj same).2
              obtain ⟨rfl, content⟩ := quote_append_inj inner
              obtain ⟨rfl, later⟩ := writeAt_append_inj (depth + 1) value another
                (endsNumber_writeFields _ _ (endsNumber_newLine _ _))
                (endsNumber_writeFields _ _ (endsNumber_newLine _ _))
                (List.append_cancel_left content)
              obtain ⟨rfl, close⟩ := writeFields_append_inj (depth + 1) fields others rfl rfl later
              have behind := List.append_cancel_left close
              exact ⟨rfl, (List.cons.inj behind).2⟩

/-- Items and what follows them are determined by the text, if a line feed follows. -/
theorem writeItems_append_inj (depth : Nat) :
    (first second : List Json) → {rest other : Text} → rest.head? = some '\n' →
      other.head? = some '\n' → writeItems depth first ++ rest = writeItems depth second ++ other →
      first = second ∧ rest = other
  | [], [], rest, other, _, _, same => ⟨rfl, same⟩
  | [], another :: others, rest, other, breaks, _, same => by
      rw [writeItems, List.nil_append] at same
      exact absurd breaks (by simp [same, writeItems])
  | item :: items, [], rest, other, _, breaks, same => by
      rw [writeItems.eq_1, List.nil_append] at same
      exact absurd breaks (by simp [← same, writeItems])
  | item :: items, another :: others, rest, other, breaks, alsoBreaks, same => by
      rw [writeItems_cons_append, writeItems_cons_append] at same
      obtain ⟨rfl, later⟩ := writeAt_append_inj depth item another
        (endsNumber_writeItems _ _ (EndsNumber.ofBreak breaks))
        (endsNumber_writeItems _ _ (EndsNumber.ofBreak alsoBreaks))
        (List.append_cancel_left (List.cons.inj same).2)
      obtain ⟨rfl, behind⟩ := writeItems_append_inj depth items others breaks alsoBreaks later
      exact ⟨rfl, behind⟩

/-- Fields and what follows them are determined by the text, if a line feed follows. -/
theorem writeFields_append_inj (depth : Nat) :
    (first second : List (Text × Json)) → {rest other : Text} → rest.head? = some '\n' →
      other.head? = some '\n' → writeFields depth first ++ rest = writeFields depth second ++ other →
      first = second ∧ rest = other
  | [], [], rest, other, _, _, same => ⟨rfl, same⟩
  | [], another :: others, rest, other, breaks, _, same => by
      rw [writeFields, List.nil_append] at same
      exact absurd breaks (by simp [same, writeFields])
  | field :: fields, [], rest, other, _, breaks, same => by
      rw [writeFields.eq_1, List.nil_append] at same
      exact absurd breaks (by simp [← same, writeFields])
  | (name, value) :: fields, (otherName, another) :: others, rest, other, breaks, alsoBreaks, same => by
      rw [writeFields_cons_append, writeFields_cons_append] at same
      obtain ⟨rfl, content⟩ := quote_append_inj (List.append_cancel_left (List.cons.inj same).2)
      obtain ⟨rfl, later⟩ := writeAt_append_inj depth value another
        (endsNumber_writeFields _ _ (EndsNumber.ofBreak breaks))
        (endsNumber_writeFields _ _ (EndsNumber.ofBreak alsoBreaks))
        (List.append_cancel_left content)
      obtain ⟨rfl, behind⟩ := writeFields_append_inj depth fields others breaks alsoBreaks later
      exact ⟨rfl, behind⟩

end

/-- Different documents are written differently. -/
theorem write_inj {first second : Json} : first.write = second.write ↔ first = second := by
  refine ⟨fun same => ?_, congrArg write⟩
  have nothing : EndsNumber [] := by simp [EndsNumber]
  exact (writeAt_append_inj 0 first second nothing nothing (congrArg (· ++ []) same)).1

end HouseStyle.Json
