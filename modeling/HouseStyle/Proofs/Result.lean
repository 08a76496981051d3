/-
This file proves when computations that may fail succeed.
-/

import HouseStyle.Text.Basic

namespace HouseStyle

variable {fault item value : Type}

/-- Two computations in a row succeed if and only if both do. -/
theorem bind_eq_ok_iff {first : Except fault item} {next : item → Except fault value}
    {result : value} :
    (first >>= next) = .ok result ↔ ∃ middle, first = .ok middle ∧ next middle = .ok result := by
  cases first with
  | error reason => simp [bind, Except.bind]
  | ok middle => simp [bind, Except.bind]

/-- A computation whose result is changed succeeds if and only if it does without the change. -/
theorem map_eq_ok_iff {first : Except fault item} {next : item → value} {result : value} :
    first.map next = .ok result ↔ ∃ middle, first = .ok middle ∧ next middle = result := by
  cases first with
  | error reason => simp [Except.map]
  | ok middle => simp [Except.map]

/-- A check without a result succeeds before what follows it. -/
theorem check_bind_eq_ok_iff {check : Except fault Unit} {next : Unit → Except fault value}
    {result : value} :
    (check >>= next) = .ok result ↔ check = .ok () ∧ next () = .ok result := by
  rw [bind_eq_ok_iff]
  constructor
  · rintro ⟨⟨⟩, passed, done⟩
    exact ⟨passed, done⟩
  · rintro ⟨passed, done⟩
    exact ⟨(), passed, done⟩

/-- A check of all items succeeds if and only if the check of each one does. -/
theorem forM_eq_ok_iff {items : List item} {check : item → Except fault Unit} :
    items.forM check = .ok () ↔ ∀ item ∈ items, check item = .ok () := by
  induction items with
  | nil => simp [pure, Except.pure]
  | cons first items inductionHypothesis =>
      have step : (first :: items).forM check = (check first >>= fun _ => items.forM check) := rfl
      rw [step, check_bind_eq_ok_iff, List.forall_mem_cons, ← inductionHypothesis]

/-- All items can be read if each one can. -/
theorem exists_mapM_eq_ok {items : List item} {read : item → Except fault value}
    (readable : ∀ item ∈ items, ∃ value, read item = .ok value) :
    ∃ values, items.mapM read = .ok values := by
  induction items with
  | nil => exact ⟨[], rfl⟩
  | cons first items inductionHypothesis =>
      obtain ⟨head, found⟩ := readable first List.mem_cons_self
      obtain ⟨tail, others⟩ := inductionHypothesis fun item member =>
        readable item (List.mem_cons_of_mem _ member)
      refine ⟨head :: tail, ?_⟩
      rw [List.mapM_cons, found, others]
      rfl

/-- The values that are read are those of the items. -/
theorem mem_iff_of_mapM {items : List item} {read : item → Except fault value}
    {values : List value} (done : items.mapM read = .ok values) {found : value} :
    found ∈ values ↔ ∃ item ∈ items, read item = .ok found := by
  induction items generalizing values with
  | nil =>
      obtain rfl := Except.ok.inj done
      simp
  | cons first items inductionHypothesis =>
      rw [List.mapM_cons] at done
      obtain ⟨head, isRead, done⟩ := bind_eq_ok_iff.mp done
      obtain ⟨tail, others, done⟩ := bind_eq_ok_iff.mp done
      obtain rfl := Except.ok.inj done
      have same : found = head ↔ read first = .ok found := by
        rw [isRead, Except.ok.injEq, eq_comm]
      simp only [List.mem_cons, exists_eq_or_imp, same, inductionHypothesis others]

end HouseStyle
