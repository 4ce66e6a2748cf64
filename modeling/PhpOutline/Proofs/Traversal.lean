import Mathlib.Data.List.Forall2

/-!
Traversals of lists by a step that may fail.

A traversal succeeds exactly when each step does, and it fails for the cause of one of them.
-/

namespace PhpOutline

/-- A traversal that succeeds has the result of each step, in order. -/
theorem map_eq_of_mapM_eq_ok {α β ε : Type} {f : α → Except ε β} {items : List α}
    {results : List β} (succeeded : items.mapM f = .ok results) :
    items.map f = results.map .ok := by
  induction items generalizing results with
  | nil =>
    simp only [List.mapM_nil, pure, Except.pure, Except.ok.injEq] at succeeded
    simp [← succeeded]
  | cons item items ih =>
    rw [List.mapM_cons] at succeeded
    cases first : f item with
    | error cause => simp [first, bind, Except.bind] at succeeded
    -- A traversal that succeeds has a value for the first item, and values for the others.
    | ok value =>
      cases later : items.mapM f with
      | error cause => simp [first, later, bind, Except.bind] at succeeded
      | ok values =>
        simp only [first, later, bind, Except.bind, pure, Except.pure,
          Except.ok.injEq] at succeeded
        simp [← succeeded, first, ih later]

/-- A traversal that fails does so at one of its items, for the same cause. -/
theorem exists_of_mapM_eq_error {α β ε : Type} {f : α → Except ε β} {items : List α} {cause : ε}
    (failed : items.mapM f = .error cause) : ∃ item ∈ items, f item = .error cause := by
  induction items with
  | nil => simp [pure, Except.pure] at failed
  | cons item items ih =>
    rw [List.mapM_cons] at failed
    cases first : f item with
    -- The first item that fails is the one whose cause is reported.
    | error other =>
      simp only [first, bind, Except.bind, Except.error.injEq] at failed
      exact ⟨item, by simp, by rw [first, failed]⟩
    | ok value =>
      cases later : items.mapM f with
      | error other =>
        simp only [first, later, bind, Except.bind, Except.error.injEq] at failed
        obtain ⟨found, listed, fails⟩ := ih (by rw [later, failed])
        exact ⟨found, by simp [listed], fails⟩
      | ok values => simp [first, later, bind, Except.bind, pure, Except.pure] at failed

/-- A traversal succeeds exactly when each of its steps does, with the results in order. -/
theorem mapM_eq_ok_iff {α β ε : Type} {f : α → Except ε β} {items : List α} {results : List β} :
    items.mapM f = .ok results ↔ items.map f = results.map .ok := by
  -- In the other direction every step succeeds, so the induction is on the items.
  refine ⟨map_eq_of_mapM_eq_ok, fun each => ?_⟩
  induction items generalizing results with
  | nil =>
    cases results with
    | nil => rfl
    | cons result results => simp at each
  | cons item items ih =>
    cases results with
    | nil => simp at each
    | cons result results =>
      simp only [List.map_cons, List.cons.injEq] at each
      rw [List.mapM_cons, each.1, ih each.2]
      rfl

/-- A traversal succeeds exactly when each of its steps does, item by item. -/
theorem mapM_eq_ok_iff_forall₂ {α β ε : Type} {f : α → Except ε β} {items : List α}
    {results : List β} :
    items.mapM f = .ok results ↔
      List.Forall₂ (fun item result => f item = .ok result) items results := by
  rw [mapM_eq_ok_iff, ← List.forall₂_eq_eq_eq, List.forall₂_map_left_iff,
    List.forall₂_map_right_iff]

/-- What each step of a traversal ensures holds between the items and the results, in order. -/
theorem forall₂_of_mapM_eq_ok {α β ε : Type} {f : α → Except ε β} {related : α → β → Prop}
    {items : List α} {results : List β}
    (step : ∀ item ∈ items, ∀ result, f item = .ok result → related item result)
    (succeeded : items.mapM f = .ok results) : List.Forall₂ related items results := by
  -- The traversal is first turned into a relation between items and results.
  have each := mapM_eq_ok_iff_forall₂.mp succeeded
  clear succeeded
  induction each with
  | nil => exact .nil
  | cons first _ ih =>
    refine .cons (step _ (by simp) _ first) (ih ?_)
    exact fun further listed => step further (by simp [listed])

/-- A traversal of changed items succeeds alongside another one if each of its steps does. -/
theorem exists_mapM_map_eq_ok {α β ε : Type} {f g : α → Except ε β} {change : α → α}
    {related : β → β → Prop} {items : List α} {results : List β}
    (step : ∀ item ∈ items, ∀ result, f item = .ok result →
      ∃ other, g (change item) = .ok other ∧ related result other)
    (succeeded : items.mapM f = .ok results) :
    ∃ others, (items.map change).mapM g = .ok others ∧ List.Forall₂ related results others := by
  -- The items and results of the first traversal are paired, and the second one follows the pairs.
  have paired := forall₂_of_mapM_eq_ok step succeeded
  simp only [mapM_eq_ok_iff]
  clear step succeeded
  induction paired with
  | nil => exact ⟨[], rfl, .nil⟩
  | cons alike _ ih =>
    obtain ⟨other, first, alike⟩ := alike
    obtain ⟨others, later, paired⟩ := ih
    exact ⟨other :: others, by simp [first, later], .cons alike paired⟩

/-- In lists that are related item by item, each item of the first has a partner. -/
theorem exists_of_forall₂_of_mem {α β : Type} {related : α → β → Prop} {items : List α}
    {results : List β} (paired : List.Forall₂ related items results) {item : α}
    (listed : item ∈ items) : ∃ result ∈ results, related item result := by
  induction paired with
  | nil => simp at listed
  | cons first _ ih =>
    -- The item is the first of its list, or one of the others.
    rcases List.mem_cons.mp listed with rfl | later
    · exact ⟨_, by simp, first⟩
    · obtain ⟨result, found, holds⟩ := ih later
      exact ⟨result, by simp [found], holds⟩

end PhpOutline
