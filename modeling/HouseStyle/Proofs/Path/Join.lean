/-
This file proves that the components of a path below a folder are the components of the folder and
the names that lead from it.
-/

import Mathlib.Data.List.Basic
import HouseStyle.Path.Basic
import HouseStyle.Proofs.Text.Basic

namespace HouseStyle.Path

/-- An item of a folder can have this name. -/
structure IsName (name : Text) : Prop where
  named : piece? name = some (.named name)
  noSeparator : '/' ∉ name

instance (name : Text) : Decidable (IsName name) :=
  decidable_of_iff (piece? name = some (.named name) ∧ '/' ∉ name)
    ⟨fun both => ⟨both.1, both.2⟩, fun isName => ⟨isName.1, isName.2⟩⟩

theorem IsName.ne_nil {name : Text} (isName : IsName name) : name ≠ [] := by
  rintro rfl
  exact absurd isName.named (by decide)

section Components

variable {front : Path} {names : List Text}

/-- The text behind a separator adds the components of its pieces. Only the text in front of it
tells how the path starts. -/
theorem components_append_separator (filled : front ≠ []) (rest : Path) :
    components (front ++ '/' :: rest) =
      components front ++ (List.splitOn '/' rest).filterMap piece? := by
  obtain ⟨first, others, shape⟩ := List.exists_cons_of_ne_nil (List.splitOn_ne_nil '/' front)
  obtain ⟨char, front, rfl⟩ := List.exists_cons_of_ne_nil filled
  have appended : List.splitOn '/' (char :: front ++ '/' :: rest) =
      first :: (others ++ List.splitOn '/' rest) := by
    rw [List.splitOn_append_cons_self, shape, List.cons_append]
  simp only [components, appended, shape, ← List.cons_append, List.filterMap_append]
  rw [← List.append_assoc]
  refine congrArg (· ++ _ ++ _) ?_
  -- Both paths start with the same character and with the same piece.
  by_cases separated : char = '/'
  · subst separated
    rfl
  · by_cases dot : first = ['.']
    · subst dot
      simp [separated]
    · simp [separated, dot]

/-- A separator at the end of a folder takes the place of the one behind it. -/
theorem components_folder_append (ended : front.getLast? = some '/') (rest : Path) :
    components (front ++ rest) = components front ++ (List.splitOn '/' rest).filterMap piece? := by
  obtain ⟨before, rfl⟩ := List.getLast?_eq_some_iff.mp ended
  rw [List.append_assoc, List.singleton_append]
  by_cases filled : before = []
  · subst filled
    rfl
  · rw [components_append_separator filled, components_append_separator filled]
    exact congrArg (· ++ _) (List.append_nil _).symm

/-- Names make a relative path. -/
theorem not_isAbsolute_intercalate (areNames : ∀ name ∈ names, IsName name) :
    isAbsolute (List.intercalate ['/'] names) = false := by
  rw [isAbsolute, Bool.eq_false_iff]
  intro first
  obtain ⟨name, member, head⟩ := Text.head?_intercalate
    (fun name member => (areNames name member).ne_nil) (beq_iff_eq.mp first)
  exact (areNames name member).noSeparator (List.mem_of_head? head)

/-- The components of a path below a folder are those of the folder, followed by the names. -/
theorem components_join {root : Path} (rooted : root ≠ []) (filled : names ≠ [])
    (areNames : ∀ name ∈ names, IsName name) :
    components (join root (List.intercalate ['/'] names)) = components root ++ names.map .named := by
  have pieces : List.splitOn '/' (List.intercalate ['/'] names) = names :=
    List.splitOn_intercalate _ (fun name member => (areNames name member).noSeparator) filled
  have named : names.filterMap piece? = names.map .named :=
    List.filterMap_eq_map_iff_forall_eq_some.mpr fun name member => (areNames name member).named
  rw [join, not_isAbsolute_intercalate areNames, List.isEmpty_eq_false_iff.mpr rooted]
  simp only [Bool.or_self, Bool.false_eq_true, ↓reduceIte]
  split
  next ended => rw [components_folder_append (beq_iff_eq.mp ended), pieces, named]
  next => rw [components_append_separator rooted, pieces, named]

/-- Different names lead to paths with different components. -/
theorem names_of_components_join {root : Path} {others : List Text} (rooted : root ≠ [])
    (filled : names ≠ []) (areNames : ∀ name ∈ names, IsName name) (othersFilled : others ≠ [])
    (othersAreNames : ∀ name ∈ others, IsName name)
    (same : components (join root (List.intercalate ['/'] names)) =
      components (join root (List.intercalate ['/'] others))) : names = others := by
  rw [components_join rooted filled areNames,
    components_join rooted othersFilled othersAreNames] at same
  exact (List.map_inj_right fun _ _ => Component.named.inj).mp (List.append_cancel_left same)

end Components

end HouseStyle.Path
