/-
This file proves which document is read from the written sections of a configuration.
-/

import HouseStyle.Config.Load
import HouseStyle.Proofs.Toml.Document

namespace HouseStyle

open Toml (Value Entries)

/-- The value that the written form of a setting stands for. -/
def Setting.value : Setting → Value
  | text value => .text value
  | texts values => .list (values.map .text)
  | number value => .number (.ofNat value)
  | flag value => .flag value

/-- Each item of an array takes at least one character. -/
theorem length_le_length_writeTexts (items : List Text) :
    items.length ≤ (Toml.writeTexts items).length := by
  have lines (items : List Text) : items.length ≤
      (items.flatMap fun item => "    ".toList ++ Toml.quote item ++ [',', '\n']).length := by
    induction items with
    | nil => simp
    | cons item items inductionHypothesis =>
        rw [List.flatMap_cons, List.length_append, List.length_cons]
        simp only [List.length_append, List.length_cons]
        omega
  match items with
  | [] => simp
  | [item] => simp [Toml.writeTexts]
  | first :: second :: others =>
      have bound := lines (first :: second :: others)
      simp only [Toml.writeTexts, List.length_cons, List.length_append] at bound ⊢
      omega

namespace Setting

/-- A setting is read back from the end of its line. -/
theorem readValue_toml (setting : Setting) {fuel : Nat} (enough : setting.toml.length + 3 ≤ fuel)
    (rest : Text) :
    Toml.readValue fuel (setting.toml ++ '\n' :: rest) = some (setting.value, '\n' :: rest) := by
  obtain ⟨more, same⟩ := Nat.exists_eq_add_of_le' enough
  cases setting with
  | text value =>
      rw [same]
      exact Toml.readValue_quote value _ _ (by simp [Toml.NoQuote]) (by simp [Toml.NoQuote])
  | texts values =>
      have length := length_le_length_writeTexts values
      have shape : fuel = fuel - values.length - 3 + values.length + 3 := by
        simp only [toml] at enough
        omega
      rw [shape]
      exact Toml.readValue_writeTexts values _ _
  | number value =>
      rw [same]
      exact Toml.readValue_number value _ rest
  | flag value =>
      rw [same]
      cases value
      · exact Toml.readValue_flag false _ rest
      · exact Toml.readValue_flag true _ rest

/-- A setting does not start with white space. -/
theorem skipBlanks_toml (setting : Setting) (rest : Text) :
    Toml.skipBlanks (setting.toml ++ '\n' :: rest) = setting.toml ++ '\n' :: rest := by
  have stop {first : Char} (noBlank : Toml.isBlank first = false) (others : Text) :
      Toml.skipBlanks (first :: others) = first :: others := by
    simp [Toml.skipBlanks, noBlank]
  cases setting with
  | text value =>
      rcases Toml.quote_head value with first | first
      all_goals
        obtain ⟨tail, same⟩ := List.head?_eq_some_iff.mp first
        rw [toml, same]
        exact stop rfl _
  | texts values =>
      rcases values with _ | ⟨first, _ | ⟨second, others⟩⟩ <;> rfl
  | number value =>
      have bare : Toml.IsBareKey (Text.ofNat value) := by
        refine ⟨Nat.toDigits_ne_nil, fun char member => ?_⟩
        simp [Toml.isKeyChar, Char.isAlphanum, Toml.isDigit_of_mem_ofNat member]
      exact bare.skipBlanks _
  | flag value => cases value <;> rfl

end Setting

namespace Section

/-- The entries that the written form of a section stands for. -/
def entries (part : Section) : Entries :=
  part.settings.map fun (name, setting) => (name, setting.value)

/-- The names in a section are bare keys, and no name occurs twice. -/
structure IsPlain (part : Section) : Prop where
  bareName : Toml.IsBareKey part.name
  bareKeys : ∀ key ∈ part.settings.map Prod.fst, Toml.IsBareKey key
  distinct : (part.settings.map Prod.fst).Nodup

/-- The written sections with the given number of empty lines between neighbours. -/
def tomlApart (gaps : Nat) (parts : List Section) : Text :=
  List.intercalate (List.replicate gaps '\n') (parts.map toml)

end Section

namespace Toml

/-- An empty line between two statements is skipped. -/
theorem readStatements_lineFeed (fuel : Nat) (document : Document) (text : Text) :
    readStatements fuel document ('\n' :: text) = readStatements fuel document text := by
  cases fuel <;> rfl

/-- Empty lines in front of a document need no fuel. -/
theorem readStatements_lineFeeds (count fuel : Nat) (document : Document) (text : Text) :
    readStatements fuel document (List.replicate count '\n' ++ text) =
      readStatements fuel document text := by
  induction count with
  | zero => rfl
  | succ count inductionHypothesis =>
      rw [List.replicate_succ, List.cons_append, readStatements_lineFeed, inductionHypothesis]

/-- A statement that is read takes one step, and the rest follows on the next line. -/
theorem readStatements_step {document next : Document} {start rest : Text}
    (opened : skipGap false start = some start) (filled : start ≠ [])
    (read : readStatement document start = some (next, '\n' :: rest)) (fuel : Nat) :
    readStatements (fuel + 1) document start = readStatements fuel next rest := by
  have ended : atLineEnd ('\n' :: rest) = true := rfl
  rw [readStatements, opened]
  cases start with
  | nil => exact absurd rfl filled
  | cons first others =>
      simp only [read, ended, if_true]
      exact readStatements_lineFeed fuel next rest

/-- A bare key starts with one of its characters. -/
theorem IsBareKey.head {name : Text} (bare : IsBareKey name) (rest : Text) :
    ∃ first others, name ++ rest = first :: others ∧ isKeyChar first = true := by
  obtain ⟨first, others, same⟩ := List.exists_cons_of_ne_nil bare.1
  refine ⟨first, others ++ rest, by rw [same]; rfl, bare.2 first ?_⟩
  rw [same]
  exact List.mem_cons_self

/-- There is no gap in front of a bare key. -/
theorem IsBareKey.skipGap {name : Text} (bare : IsBareKey name) (rest : Text) :
    skipGap false (name ++ rest) = some (name ++ rest) := by
  obtain ⟨first, others, same, key⟩ := bare.head rest
  have noBlank := not_isBlank_of_isKeyChar key
  have noComment : first ≠ '#' := by rintro rfl; simp [isKeyChar] at key
  rw [same, Toml.skipGap]
  · simp [noBlank, noComment]
  · rintro rfl; simp [isKeyChar] at key
  · rintro _ rfl; simp [isKeyChar] at key

/-- The line of a setting adds it to the table that is open. -/
theorem readStatement_setting {name table : Text} (bare : IsBareKey name) (setting : Setting)
    {root inside : Entries} (absent : root.lookup table = none)
    (fresh : inside.lookup name = none) (rest : Text) :
    readStatement ⟨root ++ [(table, .table .header inside)], [table]⟩
        (Section.settingLine name setting ++ rest) =
      some (⟨root ++ [(table, .table .header (inside ++ [(name, setting.value)]))], [table]⟩,
        '\n' :: rest) := by
  have shape : Section.settingLine name setting ++ rest =
      name ++ " = ".toList ++ (setting.toml ++ '\n' :: rest) := by
    simp [Section.settingLine]
  have assignment : readAssignment (fuelFor (Section.settingLine name setting ++ rest))
      (Section.settingLine name setting ++ rest) =
        some (([name], setting.value), '\n' :: rest) := by
    have fuel : fuelFor (Section.settingLine name setting ++ rest) =
        fuelFor (Section.settingLine name setting ++ rest) - 1 + 1 := rfl
    rw [fuel, shape, readAssignment_bare bare, setting.skipBlanks_toml, setting.readValue_toml]
    · rfl
    · simp [fuelFor]
      omega
  obtain ⟨first, others, same, key⟩ := bare.head (" = ".toList ++ (setting.toml ++ '\n' :: rest))
  have noHeader : ∀ after, Section.settingLine name setting ++ rest ≠ '[' :: after := by
    intro after header
    rw [shape, List.append_assoc, same] at header
    rw [(List.cons.inj header).1] at key
    simp [isKeyChar] at key
  rw [readStatement, assignment]
  · simp [Entries.within_last absent fresh]
  · exact fun after => noHeader _
  · exact noHeader

/-- The lines below a header fill its table. -/
theorem readStatements_settings {name : Text} {root : Entries} (absent : root.lookup name = none)
    (settings : List (Text × Setting)) (bare : ∀ key ∈ settings.map Prod.fst, IsBareKey key)
    (distinct : (settings.map Prod.fst).Nodup) {inside : Entries}
    (fresh : ∀ key ∈ settings.map Prod.fst, inside.lookup key = none) (fuel : Nat) (rest : Text) :
    readStatements (fuel + settings.length) ⟨root ++ [(name, .table .header inside)], [name]⟩
        (settings.flatMap (fun (key, setting) => Section.settingLine key setting) ++ rest) =
      readStatements fuel ⟨root ++ [(name, .table .header
        (inside ++ settings.map fun (key, setting) => (key, setting.value)))], [name]⟩ rest := by
  induction settings generalizing inside with
  | nil => simp
  | cons entry settings inductionHypothesis =>
      obtain ⟨key, setting⟩ := entry
      simp only [List.map_cons, List.mem_cons, forall_eq_or_imp, List.nodup_cons]
        at bare distinct fresh
      have later : ∀ other ∈ settings.map Prod.fst,
          (inside ++ [(key, setting.value)]).lookup other = none := by
        intro other member
        have different : other ≠ key := fun same => distinct.1 (same ▸ member)
        simp [List.lookup_append, fresh.2 other member, different]
      rw [List.flatMap_cons, List.append_assoc, List.length_cons, ← Nat.add_assoc,
        readStatements_step _ _ (readStatement_setting bare.1 setting absent fresh.1 _),
        inductionHypothesis bare.2 distinct.2 later]
      · simp
      · simp only [Section.settingLine, List.append_assoc]
        exact bare.1.skipGap _
      · simp [Section.settingLine]

/-- A written section appends its table to the document. -/
theorem readStatements_section {part : Section} (plain : part.IsPlain) {document : Document}
    (absent : document.root.lookup part.name = none) (fuel : Nat) (rest : Text) :
    readStatements (fuel + part.settings.length + 1) document (part.toml ++ rest) =
      readStatements fuel
        ⟨document.root ++ [(part.name, .table .header part.entries)], [part.name]⟩ rest := by
  let settings := part.settings.flatMap fun (key, setting) => Section.settingLine key setting
  have shape : part.toml ++ rest = '[' :: part.name ++ ']' :: '\n' :: (settings ++ rest) := by
    simp [Section.toml, settings]
  rw [shape, readStatements_step rfl (by simp) (readStatement_header plain.bareName absent _),
    readStatements_settings absent part.settings plain.bareKeys plain.distinct (by simp)]
  rfl

/-- The number of statements in the written form of some sections. -/
def statementCount : List Section → Nat
  | [] => 0
  | part :: parts => part.settings.length + 1 + statementCount parts

/-- A section stands in front of the others with empty lines between them. -/
theorem tomlApart_cons (gaps : Nat) (part : Section) (parts : List Section) :
    ∃ count, Section.tomlApart gaps (part :: parts) =
      part.toml ++ (List.replicate count '\n' ++ Section.tomlApart gaps parts) := by
  cases parts with
  | nil => exact ⟨0, by simp [Section.tomlApart, List.intercalate]⟩
  | cons next parts => exact ⟨gaps, by simp [Section.tomlApart, List.intercalate]⟩

/-- A section is longer than the number of its settings. -/
theorem length_settings_lt (part : Section) : part.settings.length < part.toml.length := by
  have lines : part.settings.length ≤
      (part.settings.flatMap fun entry => Section.settingLine entry.1 entry.2).length := by
    induction part.settings with
    | nil => simp
    | cons entry settings inductionHypothesis =>
        rw [List.flatMap_cons, List.length_append, List.length_cons]
        simp only [Section.settingLine, List.length_append, List.length_singleton] at *
        omega
  simp only [Section.toml, List.length_append, List.length_cons]
  omega

/-- A document is at least as long as the number of its statements. -/
theorem statementCount_le (gaps : Nat) (parts : List Section) :
    statementCount parts ≤ (Section.tomlApart gaps parts).length := by
  induction parts with
  | nil => simp [statementCount]
  | cons part parts inductionHypothesis =>
      obtain ⟨count, shape⟩ := tomlApart_cons gaps part parts
      have first := length_settings_lt part
      rw [shape, List.length_append, List.length_append]
      rw [statementCount]
      omega

/-- Sections are read back one by one. The induction is on the list of sections, and each one opens
its own table. -/
theorem readStatements_sections (gaps : Nat) {parts : List Section}
    (plain : ∀ part ∈ parts, part.IsPlain) (distinct : (parts.map Section.name).Nodup)
    {document : Document} (absent : ∀ part ∈ parts, document.root.lookup part.name = none)
    (fuel : Nat) :
    readStatements (fuel + 1 + statementCount parts) document (Section.tomlApart gaps parts) =
      some (document.root ++ parts.map fun part => (part.name, .table .header part.entries)) := by
  induction parts generalizing document with
  | nil =>
      rw [List.map_nil, List.append_nil]
      rfl
  | cons part parts inductionHypothesis =>
      simp only [List.map_cons, List.mem_cons, forall_eq_or_imp, List.nodup_cons] at *
      have later : ∀ other ∈ parts,
          (document.root ++ [(part.name, Value.table .header part.entries)]).lookup other.name =
            none := by
        intro other member
        have different : other.name ≠ part.name := fun same =>
          distinct.1 (same ▸ List.mem_map_of_mem member)
        simp [List.lookup_append, absent.2 other member, different]
      obtain ⟨count, shape⟩ := tomlApart_cons gaps part parts
      have needed : fuel + 1 + statementCount (part :: parts) =
          fuel + 1 + statementCount parts + part.settings.length + 1 := by
        rw [statementCount]
        omega
      rw [shape, needed, readStatements_section plain.1 absent.1, readStatements_lineFeeds,
        inductionHypothesis plain.2 distinct.2 later]
      simp

/-- A document of sections has no byte order mark. -/
theorem dropMark_tomlApart (gaps : Nat) (parts : List Section) :
    dropMark (Section.tomlApart gaps parts) = Section.tomlApart gaps parts := by
  cases parts with
  | nil => rfl
  | cons part parts =>
      obtain ⟨count, shape⟩ := tomlApart_cons gaps part parts
      rw [shape]
      rfl

/-- A document of sections is read back with one table for each section. -/
theorem read_tomlApart (gaps : Nat) {parts : List Section} (plain : ∀ part ∈ parts, part.IsPlain)
    (distinct : (parts.map Section.name).Nodup) :
    read (Section.tomlApart gaps parts) =
      some (parts.map fun part => (part.name, .table .header part.entries)) := by
  have bound := statementCount_le gaps parts
  have fuel : (Section.tomlApart gaps parts).length + 1 =
      (Section.tomlApart gaps parts).length - statementCount parts + 1 + statementCount parts := by
    omega
  rw [read, dropMark_tomlApart, fuel, readStatements_sections gaps plain distinct (by simp)]
  rfl

end Toml

end HouseStyle
