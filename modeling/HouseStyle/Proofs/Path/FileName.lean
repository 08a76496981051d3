/-
This file proves that the name of a file is the last component of its path.
-/

import HouseStyle.Path.Basic
import HouseStyle.Proofs.Text.Basic

namespace HouseStyle.Path

/-- The last piece of a path is the name of its file, unless it is empty or consists of dots. -/
theorem fileName?_of_last {path : Path} {name : Text}
    (last : (List.splitOn '/' path).getLast? = some name)
    (isName : piece? name = some (.named name)) : fileName? path = some name := by
  obtain ⟨folders, shape⟩ := List.getLast?_eq_some_iff.mp last
  have named : (components path).getLast? = some (.named name) := by
    simp only [components, shape, List.filterMap_append, List.filterMap_cons_some isName,
      List.filterMap_nil, ← List.append_assoc, List.getLast?_concat]
  rw [fileName?, named]

/-- A name can stand behind the text. -/
def Ended (text : Text) : Prop :=
  text = [] ∨ text.getLast? = some '/'

theorem ended_append {first second : Text} (firstEnded : Ended first) (secondEnded : Ended second) :
    Ended (first ++ second) := by
  rcases secondEnded with rfl | last
  · rwa [List.append_nil]
  · exact Or.inr (by rw [List.getLast?_append, last, Option.some_or])

theorem ended_separator (text : Text) : Ended (text ++ ['/']) :=
  Or.inr List.getLast?_concat

/-- The name after the last separator is the name of the file. -/
theorem fileName?_append {front name : Text} (ended : Ended front) (noSeparator : '/' ∉ name)
    (isName : piece? name = some (.named name)) : fileName? (front ++ name) = some name := by
  refine fileName?_of_last ?_ isName
  rcases ended with rfl | last
  · rw [List.nil_append, List.splitOn_eq_singleton noSeparator, List.getLast?_singleton]
  · obtain ⟨before, rfl⟩ := List.getLast?_eq_some_iff.mp last
    rw [List.append_assoc, List.singleton_append, List.splitOn_append_cons_self,
      List.splitOn_eq_singleton noSeparator, List.getLast?_concat]

/-- The last of several names stands behind a separator or at the beginning. -/
theorem intercalate_append_singleton (folders : List Text) (name : Text) :
    ∃ front, Ended front ∧ List.intercalate ['/'] (folders ++ [name]) = front ++ name := by
  induction folders with
  | nil => exact ⟨[], Or.inl rfl, List.intercalate_singleton⟩
  | cons folder folders inductionHypothesis =>
      obtain ⟨front, ended, shape⟩ := inductionHypothesis
      have filled := List.append_ne_nil_of_right_ne_nil folders (List.cons_ne_nil name [])
      obtain ⟨first, others, same⟩ := List.exists_cons_of_ne_nil filled
      refine ⟨folder ++ ['/'] ++ front, ended_append (ended_separator folder) ended, ?_⟩
      rw [List.cons_append, same, List.intercalate_cons_cons, ← same, shape,
        List.append_assoc _ front name]

/-- A joined path ends as its second part does. -/
theorem join_append (root front name : Text) (ended : Ended front) :
    ∃ start, Ended start ∧ join root (front ++ name) = start ++ name := by
  rw [join]
  split
  next => exact ⟨front, ended, rfl⟩
  next =>
    split
    next last =>
      have rootEnded : Ended root := Or.inr (beq_iff_eq.mp last)
      exact ⟨root ++ front, ended_append rootEnded ended, (List.append_assoc _ _ _).symm⟩
    next =>
      exact ⟨root ++ ['/'] ++ front, ended_append (ended_separator root) ended, by simp⟩

/-- The name of a file in a folder is its last name. -/
theorem fileName?_join_intercalate (root : Path) (folders : List Text) {name : Text}
    (noSeparator : '/' ∉ name) (isName : piece? name = some (.named name)) :
    fileName? (join root (List.intercalate ['/'] (folders ++ [name]))) = some name := by
  obtain ⟨front, ended, shape⟩ := intercalate_append_singleton folders name
  obtain ⟨start, startEnded, joined⟩ := join_append root front name ended
  rw [shape, joined, fileName?_append startEnded noSeparator isName]

/-- The extension of a path is the extension of its file name. -/
theorem hasExtension_congr {first second : Path} (same : fileName? first = fileName? second)
    (extensions : List Text) : hasExtension extensions first = hasExtension extensions second := by
  rw [hasExtension, hasExtension, extension?, extension?, same]

end HouseStyle.Path
