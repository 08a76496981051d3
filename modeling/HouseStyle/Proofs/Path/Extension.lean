/-
This file proves which extensions the paths of files can have.
-/

import HouseStyle.Path.Basic
import HouseStyle.Proofs.Text.Basic

namespace HouseStyle

namespace Text

/-- Only letters change their case. -/
theorem toLower_eq_iff {sign : Char} (noLetter : sign.isAlpha = false) (char : Char) :
    char.toLower = sign ↔ char = sign := by
  unfold Char.isAlpha Char.isUpper Char.isLower at noLetter
  unfold Char.toLower
  split
  next isUpper =>
    -- Both a capital letter and its small form are letters, so neither one is the sign.
    refine ⟨fun same => ?_, fun same => ?_⟩ <;> subst same <;> exfalso <;>
      simp [UInt32.le_iff_toNat_le] at noLetter isUpper <;> omega
  next => rfl

/-- Small letters change no sign that is not a letter. -/
theorem mem_lowerAscii_iff {sign : Char} (noLetter : sign.isAlpha = false) {text : Text} :
    sign ∈ lowerAscii text ↔ sign ∈ text := by
  simp only [lowerAscii, List.mem_map, toLower_eq_iff noLetter, exists_eq_right]

end Text

namespace Path

/-- Some file name can have this extension: it has no dot, because the extension of a name starts
after the last dot, and no separator. -/
def Nameable (extension : Text) : Prop :=
  '.' ∉ extension ∧ '/' ∉ extension

instance (extension : Text) : Decidable (Nameable extension) :=
  inferInstanceAs (Decidable (_ ∧ _))

/-- The case of an extension does not decide whether a file can have it. -/
theorem nameable_lowerAscii_iff {extension : Text} :
    Nameable (Text.lowerAscii extension) ↔ Nameable extension := by
  rw [Nameable, Nameable, Text.mem_lowerAscii_iff (by decide), Text.mem_lowerAscii_iff (by decide)]

/-- The last dot is searched first in the rest of a text. -/
theorem afterLastDot?_cons (char : Char) (rest : Text) :
    afterLastDot? (char :: rest) =
      (afterLastDot? rest).or (if rest.head? = some '.' then some rest.tail else none) := by
  cases rest with
  | nil => rfl
  | cons second rest =>
      by_cases isDot : second = '.'
      · subst isDot
        rw [afterLastDot?]
        cases afterLastDot? ('.' :: rest) <;> rfl
      · rw [afterLastDot?]
        · cases afterLastDot? (second :: rest) <;> simp [isDot]
        · rintro extension same
          exact isDot (List.cons.inj same).1

/-- A dot counts only behind the first character. -/
theorem afterLastDot?_eq_none_iff {text : Text} :
    afterLastDot? text = none ↔ '.' ∉ text.tail := by
  induction text with
  | nil => simp [afterLastDot?]
  | cons char rest inductionHypothesis =>
      rw [afterLastDot?_cons, Option.or_eq_none_iff, inductionHypothesis, List.tail_cons]
      cases rest with
      | nil => simp
      | cons second rest => simp [eq_comm, and_comm]

/-- The extension of a name is its part after the last dot. -/
theorem afterLastDot?_append {name extension : Text} (filled : name ≠ [])
    (noDot : '.' ∉ extension) : afterLastDot? (name ++ '.' :: extension) = some extension := by
  induction name with
  | nil => exact absurd rfl filled
  | cons char name inductionHypothesis =>
      rw [List.cons_append, afterLastDot?_cons]
      cases name with
      | nil =>
          have later : afterLastDot? ('.' :: extension) = none := afterLastDot?_eq_none_iff.mpr noDot
          rw [List.nil_append, later]
          rfl
      | cons second name =>
          rw [inductionHypothesis (List.cons_ne_nil _ _), Option.some_or]

/-- The text after the last dot has no dot, and the rest of the name stands before it. -/
theorem afterLastDot?_spec {text extension : Text} (found : afterLastDot? text = some extension) :
    (∃ name, text = name ++ '.' :: extension) ∧ '.' ∉ extension := by
  induction text with
  | nil => contradiction
  | cons char rest inductionHypothesis =>
      rw [afterLastDot?_cons] at found
      cases later : afterLastDot? rest with
      | some other =>
          rw [later] at found
          obtain rfl := Option.some.inj found
          obtain ⟨⟨name, shape⟩, noDot⟩ := inductionHypothesis later
          exact ⟨⟨char :: name, by rw [shape]; rfl⟩, noDot⟩
      | none =>
          rw [later, Option.none_or, Option.ite_none_right_eq_some] at found
          obtain ⟨isDot, same⟩ := found
          obtain ⟨tail, rfl⟩ := List.head?_eq_some_iff.mp isDot
          obtain rfl := Option.some.inj same
          exact ⟨⟨[char], rfl⟩, afterLastDot?_eq_none_iff.mp later⟩

/-- A named piece is its name. -/
theorem eq_of_piece?_eq_named {piece name : Text} (read : piece? piece = some (.named name)) :
    piece = name := by
  rw [piece?] at read
  split at read
  next => contradiction
  next =>
    split at read
    next => exact absurd read (by simp)
    next => exact Component.named.inj (Option.some.inj read)

/-- A name has no separator. -/
theorem not_mem_of_fileName? {path : Path} {name : Text} (found : fileName? path = some name) :
    '/' ∉ name := by
  have member : Component.named name ∈ components path := by
    rw [fileName?] at found
    split at found
    next last =>
      rw [← Option.some.inj found]
      exact List.mem_of_getLast? last
    next => contradiction
  -- What stands in front of the pieces is the root or a dot, and no name.
  rcases List.mem_append.mp member with atStart | inPieces
  · split at atStart <;> simp at atStart
  · obtain ⟨piece, inPath, read⟩ := List.mem_filterMap.mp inPieces
    obtain rfl := eq_of_piece?_eq_named read
    exact Text.not_mem_of_mem_splitOn inPath

/-- The extension of a path has no dot and no separator. -/
theorem nameable_of_extension? {path : Path} {extension : Text}
    (found : extension? path = some extension) : Nameable extension := by
  obtain ⟨name, named, last⟩ := Option.bind_eq_some_iff.mp found
  obtain ⟨⟨before, rfl⟩, noDot⟩ := afterLastDot?_spec last
  exact ⟨noDot, fun member => not_mem_of_fileName? named (by simp [member])⟩

/-- A file name that is no path of several components. -/
theorem extension?_fileName {extension : Text} (nameable : Nameable extension) :
    extension? ('x' :: '.' :: extension) = some extension := by
  have noSeparator : '/' ∉ 'x' :: '.' :: extension := by simp [nameable.2]
  have name : fileName? ('x' :: '.' :: extension) = some ('x' :: '.' :: extension) := by
    simp [fileName?, components, List.splitOn_eq_singleton noSeparator, piece?]
  rw [extension?, name]
  exact afterLastDot?_append (List.cons_ne_nil 'x' []) nameable.1

/-- A path has one of the extensions if its own extension in small letters is listed. -/
theorem hasExtension_iff {extensions : List Text} {path : Path} :
    hasExtension extensions path = true ↔
      ∃ extension, extension? path = some extension ∧ Text.lowerAscii extension ∈ extensions := by
  rw [hasExtension]
  cases extension? path with
  | none => simp
  | some extension => simp

end Path

end HouseStyle
