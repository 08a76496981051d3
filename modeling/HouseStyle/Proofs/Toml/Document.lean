/-
This file proves how headers and assignments with bare keys are read into a document.
-/

import HouseStyle.Proofs.Toml.Value

namespace HouseStyle.Toml

namespace Entries

/-- An entry with a new name is put behind the others. -/
theorem put_append {name : Text} {entries : Entries} (absent : entries.lookup name = none)
    (value : Value) (rest : Entries) :
    put name value (entries ++ rest) = entries ++ put name value rest := by
  induction entries with
  | nil => rfl
  | cons entry entries inductionHypothesis =>
      obtain ⟨other, old⟩ := entry
      simp only [List.lookup_eq_none_iff, List.mem_cons, forall_eq_or_imp, bne_iff_ne] at absent
      have others := inductionHypothesis (by simpa using absent.2)
      rw [List.cons_append, put, if_neg absent.1.symm, others]
      rfl

theorem put_new {name : Text} {entries : Entries} (absent : entries.lookup name = none)
    (value : Value) : put name value entries = entries ++ [(name, value)] := by
  simpa [put] using put_append absent value []

/-- The value of the last entry is replaced. -/
theorem put_last {name : Text} {entries : Entries} (absent : entries.lookup name = none)
    (old value : Value) :
    put name value (entries ++ [(name, old)]) = entries ++ [(name, value)] := by
  simpa [put] using put_append absent value [(name, old)]

theorem lookup_last {name : Text} {entries : Entries} (absent : entries.lookup name = none)
    (value : Value) : (entries ++ [(name, value)]).lookup name = some value := by
  simp [List.lookup_append, absent]

/-- A table with a new name is opened empty. -/
theorem openTable_new {name : Text} {entries : Entries} (absent : entries.lookup name = none) :
    openTable name entries = some (entries ++ [(name, .table .header [])]) := by
  rw [openTable, absent]
  simp only [put_new absent]

/-- An assignment below the last header extends the table of this header. -/
theorem within_last {name key : Text} {entries inside : Entries}
    (absent : entries.lookup name = none) (fresh : inside.lookup key = none) (value : Value) :
    within (assign value [key]) [name] (entries ++ [(name, .table .header inside)]) =
      some (entries ++ [(name, .table .header (inside ++ [(key, value)]))]) := by
  simp only [within, lookup_last absent, assign, addNew, fresh, Option.isSome_none,
    Bool.false_eq_true, if_false, put_new fresh, Option.map_some, put_last absent]

end Entries

/-- A bare key is not empty and has only letters, digits, underscores and hyphens. -/
def IsBareKey (name : Text) : Prop :=
  name ≠ [] ∧ ∀ char ∈ name, isKeyChar char = true

theorem not_isBlank_of_isKeyChar {char : Char} (key : isKeyChar char = true) :
    isBlank char = false := by
  cases blank : isBlank char with
  | false => rfl
  | true =>
      simp only [isBlank, Bool.or_eq_true, beq_iff_eq] at blank
      rcases blank with rfl | rfl <;> simp [isKeyChar] at key

theorem IsBareKey.skipBlanks {name : Text} (bare : IsBareKey name) (rest : Text) :
    skipBlanks (name ++ rest) = name ++ rest := by
  obtain ⟨first, others, same⟩ := List.exists_cons_of_ne_nil bare.1
  have noBlank := not_isBlank_of_isKeyChar (bare.2 first (by rw [same]; exact List.mem_cons_self))
  rw [same]
  simp [Toml.skipBlanks, noBlank]

/-- A bare key is read up to the first character that belongs to no key. -/
theorem IsBareKey.readKeyPart {name : Text} (bare : IsBareKey name) {rest : Text}
    (ends : rest.head?.any isKeyChar = false) :
    readKeyPart (name ++ rest) = some (name, rest) := by
  have stop : rest.takeWhile isKeyChar = [] ∧ rest.dropWhile isKeyChar = rest := by
    cases rest with
    | nil => simp
    | cons first rest =>
        have other : isKeyChar first = false := by simpa using ends
        simp [other]
  rw [Toml.readKeyPart, List.takeWhile_append_of_pos bare.2, List.dropWhile_append_of_pos bare.2,
    stop.1, stop.2, List.append_nil]
  cases name with
  | nil => exact absurd rfl bare.1
  | cons first others => rfl

/-- A key of one bare part is read up to the character behind it. -/
theorem IsBareKey.readKey {name : Text} (bare : IsBareKey name) {rest : Text}
    (ends : rest.head?.any isKeyChar = false) (single : (Toml.skipBlanks rest).head? ≠ some '.') :
    readKey (name ++ rest) = some ([name], Toml.skipBlanks rest) := by
  have length : (name ++ rest).length = (name ++ rest).length - 1 + 1 := by
    have positive := List.length_pos_iff.mpr bare.1
    simp
    omega
  rw [Toml.readKey, length, readKeyParts, bare.skipBlanks, bare.readKeyPart ends]
  simp only
  split
  next after same => simp [same] at single
  next after _ => rfl

/-- An assignment is a bare key and a value. -/
theorem readAssignment_bare {name : Text} (bare : IsBareKey name) (fuel : Nat) (rest : Text) :
    readAssignment (fuel + 1) (name ++ " = ".toList ++ rest) =
      (readValue fuel (skipBlanks rest)).map fun (value, rest) => (([name], value), rest) := by
  have key : readKey (name ++ (" = ".toList ++ rest)) = some ([name], '=' :: ' ' :: rest) := by
    rw [bare.readKey]
    · rfl
    · rfl
    · simp [skipBlanks, isBlank]
  rw [readAssignment, List.append_assoc, key]
  rfl

/-- A header is a bare key in brackets. -/
theorem readHeader_bare {name : Text} (bare : IsBareKey name) (rest : Text) :
    readHeader [']'] (name ++ ']' :: rest) = some ([name], rest) := by
  have key : readKey (name ++ ']' :: rest) = some ([name], ']' :: rest) := by
    rw [bare.readKey]
    · rfl
    · rfl
    · simp [skipBlanks, isBlank]
  rw [readHeader, key]
  simp [List.isPrefixOf?]

/-- A header opens a table for the lines below it. -/
theorem readStatement_header {name : Text} (bare : IsBareKey name) {document : Document}
    (absent : document.root.lookup name = none) (rest : Text) :
    readStatement document ('[' :: name ++ ']' :: rest) =
      some (⟨document.root ++ [(name, .table .header [])], [name]⟩, rest) := by
  have first : ∀ after, name ++ ']' :: rest ≠ '[' :: after := by
    intro after same
    obtain ⟨start, others, shape⟩ := List.exists_cons_of_ne_nil bare.1
    have key := bare.2 start (by rw [shape]; exact List.mem_cons_self)
    rw [shape] at same
    rw [(List.cons.inj same).1] at key
    simp [isKeyChar] at key
  rw [List.cons_append, readStatement, readHeader_bare bare]
  · simp [Entries.extend, Entries.within, Entries.openTable_new absent]
  · exact first

end HouseStyle.Toml
