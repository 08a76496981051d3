/-
This file proves that a written JSON document has no control characters apart from line feeds.
-/

import HouseStyle.Json.Basic

namespace HouseStyle.Json

/-- A control character may only be a line feed. -/
def isPlain (char : Char) : Bool :=
  char == '\n' || 0x20 ≤ char.toNat

/-- Printable characters are plain. -/
theorem isPlain_of_le {char : Char} (printable : 0x20 ≤ char.toNat) : isPlain char = true := by
  simp [isPlain, printable]

theorem isPlain_digitChar : ∀ digit < 16, isPlain (Nat.digitChar digit) = true := by
  decide

/-- The digits of a number are plain. -/
theorem all_isPlain_ofNat (number : Nat) : (Text.ofNat number).all isPlain = true := by
  refine List.all_eq_true.mpr fun char member => isPlain_of_le ?_
  have digit : char.isDigit = true :=
    Nat.isDigit_of_mem_toDigits (by decide) (by decide) member
  have bounds : 48 ≤ char.toNat ∧ char.toNat ≤ 57 := by
    simpa [Char.isDigit, UInt32.le_iff_toNat_le] using digit
  omega

theorem all_isPlain_newLine (depth : Nat) : (newLine depth).all isPlain = true := by
  have feed : isPlain '\n' = true := rfl
  have space : isPlain ' ' = true := rfl
  simp [newLine, List.all_replicate, feed, space]

/-- The escaped form of every character is plain. -/
theorem all_isPlain_escapeChar (char : Char) : (escapeChar char).all isPlain = true := by
  unfold escapeChar
  split
  case h_8 =>
    split
    next control =>
      have high := isPlain_digitChar (char.toNat / 16) (by omega)
      have low := isPlain_digitChar (char.toNat % 16) (by omega)
      simp only [hexPair, List.all_append, List.all_cons, high, low]
      rfl
    next printable =>
      simp only [List.all_cons, isPlain_of_le (Nat.le_of_not_lt printable)]
      rfl
  all_goals rfl

/-- A quoted text is plain, whatever the text is. -/
theorem all_isPlain_quote (text : Text) : (quote text).all isPlain = true := by
  have content : (text.flatMap escapeChar).all isPlain = true := by
    rw [List.all_flatMap, List.all_eq_true]
    exact fun char _ => all_isPlain_escapeChar char
  simp only [quote, List.all_append, List.all_cons, content]
  rfl

mutual

/-- A document is plain at every depth. The induction is on the document, together with its items
and its fields. -/
theorem all_isPlain_writeAt (depth : Nat) :
    (document : Json) → (document.writeAt depth).all isPlain = true
  | .flag true | .flag false | .list [] | .object [] => rfl
  | .number value => all_isPlain_ofNat value
  | .text value => all_isPlain_quote value
  | .list (item :: items) => by
      simp only [writeAt, List.all_append, List.all_cons, all_isPlain_newLine,
        all_isPlain_writeAt (depth + 1) item, all_isPlain_writeItems (depth + 1) items]
      rfl
  | .object ((name, value) :: fields) => by
      simp only [writeAt, List.all_append, List.all_cons, all_isPlain_newLine, all_isPlain_quote,
        all_isPlain_writeAt (depth + 1) value, all_isPlain_writeFields (depth + 1) fields]
      rfl

theorem all_isPlain_writeItems (depth : Nat) :
    (items : List Json) → (writeItems depth items).all isPlain = true
  | [] => rfl
  | item :: items => by
      simp only [writeItems, List.all_append, List.all_cons, all_isPlain_newLine,
        all_isPlain_writeAt depth item, all_isPlain_writeItems depth items]
      rfl

theorem all_isPlain_writeFields (depth : Nat) :
    (fields : List (Text × Json)) → (writeFields depth fields).all isPlain = true
  | [] => rfl
  | (name, value) :: fields => by
      simp only [writeFields, List.all_append, List.all_cons, all_isPlain_newLine,
        all_isPlain_quote, all_isPlain_writeAt depth value, all_isPlain_writeFields depth fields]
      rfl

end

/-- A document has no escape character. -/
theorem escape_notMem_write (document : Json) : '\x1b' ∉ document.write := by
  intro member
  have plain := List.all_eq_true.mp (all_isPlain_writeAt 0 document) '\x1b' member
  exact absurd plain (by decide)

end HouseStyle.Json
