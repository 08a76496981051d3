/-
This file proves that the files that a folder lists are the files that its names lead to, each of
them once, and that a walk that skips items lists a part of them in the same order.
-/

import Mathlib.Data.List.Nodup
import HouseStyle.Proofs.Folder.Walk
import HouseStyle.Proofs.Path.Join

namespace HouseStyle

/-- Every item has a name of its own in its folder. -/
def Folder.IsProper : Folder → Prop
  | .empty => True
  | .file name _ others => Path.IsName name ∧ others.find? name = none ∧ others.IsProper
  | .folder name items others =>
      Path.IsName name ∧ others.find? name = none ∧ items.IsProper ∧ others.IsProper

instance Folder.decidableIsProper : (here : Folder) → Decidable here.IsProper
  | .empty => .isTrue trivial
  | .file name _ others =>
      have := decidableIsProper others
      inferInstanceAs (Decidable (Path.IsName name ∧ others.find? name = none ∧ others.IsProper))
  | .folder name items others =>
      have := decidableIsProper items
      have := decidableIsProper others
      inferInstanceAs (Decidable
        (Path.IsName name ∧ others.find? name = none ∧ items.IsProper ∧ others.IsProper))

namespace Item

def IsProper : Item → Prop
  | file _ => True
  | folder items => items.IsProper

/-- The files at an item. No name leads from a file to itself. -/
def files : Item → List (List Text × Content)
  | file content => [([], content)]
  | folder items => items.files

end Item

namespace Folder

variable {name : Text} {names : List Text} {content : Content} {item : Item}
  {here others : Folder}

/-- A folder is proper if its first item has a free name and everything else is proper. -/
theorem isProper_withItem :
    (withItem name others item).IsProper ↔
      Path.IsName name ∧ others.find? name = none ∧ item.IsProper ∧ others.IsProper := by
  cases item <;> simp [withItem, IsProper, Item.IsProper]

/-- An item of a proper folder has a name and is proper itself. -/
theorem IsProper.of_find? (proper : here.IsProper) (found : here.find? name = some item) :
    Path.IsName name ∧ item.IsProper := by
  induction here using item_induction with
  | empty => simp [find?] at found
  | item first inner others inductionHypothesis =>
      obtain ⟨isName, -, innerProper, othersProper⟩ := isProper_withItem.mp proper
      by_cases same : name = first
      · subst same
        rw [find?_withItem] at found
        obtain rfl := Option.some.inj found
        exact ⟨isName, innerProper⟩
      · rw [find?_withItem_of_ne same] at found
        exact inductionHypothesis othersProper found

/-- Only names lead to the items of a proper folder. -/
theorem IsProper.of_get? (proper : here.IsProper) (found : here.get? names = some item) :
    (∀ name ∈ names, Path.IsName name) ∧ item.IsProper := by
  induction names generalizing here with
  | nil =>
      obtain rfl := Option.some.inj found
      exact ⟨fun _ member => absurd member List.not_mem_nil, proper⟩
  | cons name names inductionHypothesis =>
      rw [get?_cons] at found
      obtain ⟨inner, opened, later⟩ := Option.bind_eq_some_iff.mp found
      obtain ⟨isName, innerProper⟩ := proper.of_find? opened
      cases inner with
      | folder items =>
          rw [Item.get?_folder] at later
          obtain ⟨areNames, itemProper⟩ := inductionHypothesis innerProper later
          exact ⟨List.forall_mem_cons.mpr ⟨isName, areNames⟩, itemProper⟩
      | file content =>
          cases names with
          | nil =>
              obtain rfl := Option.some.inj later
              exact ⟨List.forall_mem_singleton.mpr isName, trivial⟩
          | cons second names => simp [Item.get?] at later

theorem ne_nil_of_get?_eq_file (found : here.get? names = some (.file content)) : names ≠ [] := by
  rintro rfl
  simp at found

section Files

theorem files_withItem (name : Text) (others : Folder) (item : Item) :
    (withItem name others item).files =
      item.files.map (fun (names, content) => (name :: names, content)) ++ others.files := by
  cases item <;> rfl

/-- The files are found by their names if this is so for the first item and for the others. -/
theorem mem_files_withItem_iff (item : Item) (free : others.find? name = none)
    (inside : ∀ names, (names, content) ∈ item.files ↔ item.get? names = some (.file content))
    (later : (names, content) ∈ others.files ↔ others.get? names = some (.file content)) :
    (names, content) ∈ (withItem name others item).files ↔
      (withItem name others item).get? names = some (.file content) := by
  rw [files_withItem, List.mem_append, later, List.mem_map]
  cases names with
  | nil => simp
  | cons first names =>
      rw [get?_cons, get?_cons]
      by_cases same : first = name
      · subst same
        rw [free, find?_withItem, Option.bind_some, ← inside]
        simp
      · rw [find?_withItem_of_ne same]
        simp [Ne.symm same]

/-- A proper folder lists a file if and only if its names lead to it. -/
theorem mem_files_iff (proper : here.IsProper) :
    (names, content) ∈ here.files ↔ here.get? names = some (.file content) := by
  induction here generalizing names with
  | empty => cases names <;> simp [files, get?, find?]
  | file name inner others inductionHypothesis =>
      obtain ⟨-, free, othersProper⟩ := proper
      refine mem_files_withItem_iff (.file inner) free (fun names => ?_)
        (inductionHypothesis othersProper)
      cases names <;> simp [Item.files, Item.get?, eq_comm]
  | folder name items others insideHypothesis inductionHypothesis =>
      obtain ⟨-, free, itemsProper, othersProper⟩ := proper
      refine mem_files_withItem_iff (.folder items) free (fun names => ?_)
        (inductionHypothesis othersProper)
      rw [Item.get?_folder]
      exact insideHypothesis itemsProper

/-- The files of a proper folder have distinct names. The first item starts its files with a name
that no other item has. -/
theorem nodup_files_withItem (item : Item) (proper : others.IsProper)
    (free : others.find? name = none)
    (inside : (item.files.map Prod.fst).Nodup) (later : (others.files.map Prod.fst).Nodup) :
    ((withItem name others item).files.map Prod.fst).Nodup := by
  rw [files_withItem, List.map_append, List.map_map]
  refine List.nodup_append.mpr ⟨?_, later, ?_⟩
  · have longer : Prod.fst ∘ (fun file : List Text × Content => (name :: file.1, file.2)) =
        List.cons name ∘ Prod.fst := rfl
    rw [longer, ← List.map_map]
    exact inside.map List.cons_injective
  · -- The other files are not behind the name of the first item.
    rintro _ first names second rfl
    obtain ⟨⟨behind, content⟩, -, rfl⟩ := List.mem_map.mp first
    obtain ⟨⟨names, other⟩, listed, same⟩ := List.mem_map.mp second
    have reached := (mem_files_iff proper).mp listed
    obtain rfl : names = name :: behind := same
    rw [get?_cons, free] at reached
    contradiction

/-- A proper folder lists every file once. -/
theorem nodup_files (proper : here.IsProper) : (here.files.map Prod.fst).Nodup := by
  induction here with
  | empty => exact List.nodup_nil
  | file name inner others inductionHypothesis =>
      obtain ⟨-, free, othersProper⟩ := proper
      exact nodup_files_withItem (.file inner) othersProper free
        (List.nodup_singleton _) (inductionHypothesis othersProper)
  | folder name items others insideHypothesis inductionHypothesis =>
      obtain ⟨-, free, itemsProper, othersProper⟩ := proper
      exact nodup_files_withItem (.folder items) othersProper free
        (insideHypothesis itemsProper) (inductionHypothesis othersProper)

/-- The same names lead to the same files. The folders may list their items in different orders. -/
def SameFiles (first second : Folder) : Prop :=
  ∀ names content,
    first.get? names = some (.file content) ↔ second.get? names = some (.file content)

/-- Two proper folders have the same files if and only if they list them up to their order. -/
theorem sameFiles_iff_perm (proper : here.IsProper) (otherProper : others.IsProper) :
    here.SameFiles others ↔ here.files.Perm others.files := by
  rw [List.perm_ext_iff_of_nodup (List.Nodup.of_map _ (nodup_files proper))
    (List.Nodup.of_map _ (nodup_files otherProper)), Prod.forall]
  exact forall₂_congr fun names content =>
    iff_congr (mem_files_iff proper).symm (mem_files_iff otherProper).symm

end Files

end Folder

/-- Whatever a walk skips, it lists the other files in the order of the folder. -/
theorem Walk.files_sublist {State : Type} (walk : Walk State) (state : State) (here : Folder) :
    (walk.files state here).Sublist here.files := by
  induction here generalizing state with
  | empty => exact List.Sublist.refl []
  | file name content others inductionHypothesis =>
      rw [files, Folder.files]
      split
      next => exact (inductionHypothesis state).cons _
      next => exact (inductionHypothesis state).cons_cons _
  | folder name items others insideHypothesis inductionHypothesis =>
      rw [files, Folder.files]
      refine List.Sublist.append ?_ (inductionHypothesis state)
      split
      next => exact List.nil_sublist _
      next => exact (insideHypothesis _).map _

/-- Ignore files only leave files out. -/
theorem Folder.unignoredFiles_sublist (user : UserRules) (path : Path) (here : Folder) :
    (here.unignoredFiles user path).Sublist here.files := by
  rw [unignoredFiles, ← Walk.files_unignored]
  exact Walk.files_sublist _ _ here

end HouseStyle
