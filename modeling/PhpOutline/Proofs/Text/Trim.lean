import Mathlib.Data.List.DropRight
import Mathlib.Tactic.Common

/-!
Lists without the items at their ends that pass a test.

A list without its outer runs is the one list that fails the test at both ends and makes up the
whole with runs that pass.
-/

namespace PhpOutline

section Trimming

variable {α : Type}

/-- A list without the items at either end that pass a test. -/
def trimmed (test : α → Bool) (items : List α) : List α :=
  -- Items further in stay, whether they pass or not.
  (items.dropWhile test).rdropWhile test

/-- More is left of a longer list by a stricter test. -/
theorem dropWhile_sublist_dropWhile {strict loose : α → Bool} {shorter longer : List α}
    (stricter : ∀ item, strict item = true → loose item = true) (within : shorter.Sublist longer) :
    (shorter.dropWhile loose).Sublist (longer.dropWhile strict) := by
  -- Over the sublist: the looser test drops at least as far.
  induction within with
  | slnil => simp
  | cons item within ih =>
    rw [List.dropWhile_cons]
    split
    · exact ih
    · exact (List.dropWhile_sublist _).trans (within.cons item)
  | cons_cons item within ih =>
    cases dropped : strict item with
    | true =>
      rw [List.dropWhile_cons_of_pos dropped, List.dropWhile_cons_of_pos (stricter item dropped)]
      exact ih
    | false =>
      rw [List.dropWhile_cons_of_neg (p := strict) (by simp [dropped])]
      exact (List.dropWhile_sublist _).trans (within.cons_cons item)

/-- A list is some copies of an item and what is left without them at the front. -/
theorem exists_replicate_dropWhile [BEq α] [LawfulBEq α] (item : α) (items : List α) :
    ∃ count, items = List.replicate count item ++ items.dropWhile (· == item) := by
  -- The items that were dropped are those that were taken, and each of them is the item.
  refine ⟨(items.takeWhile (· == item)).length, ?_⟩
  have same : items.takeWhile (· == item) =
      List.replicate (items.takeWhile (· == item)).length item := by
    refine List.eq_replicate_iff.mpr ⟨rfl, fun other listed => ?_⟩
    simpa using List.mem_takeWhile_imp listed
  rw [← same, List.takeWhile_append_dropWhile]

/-- More is left between the ends by a stricter test. -/
theorem trimmed_sublist_trimmed {strict loose : α → Bool}
    (stricter : ∀ item, strict item = true → loose item = true) (items : List α) :
    (trimmed loose items).Sublist (trimmed strict items) := by
  have front := dropWhile_sublist_dropWhile stricter (List.Sublist.refl items)
  exact (dropWhile_sublist_dropWhile stricter front.reverse).reverse

/-- An item that fails the test is left. -/
theorem mem_trimmed {test : α → Bool} {item : α} {items : List α} (listed : item ∈ items)
    (fails : test item = false) : item ∈ trimmed test items := by
  -- An item that fails the test is never dropped, at either end.
  have kept : ∀ items : List α, item ∈ items → item ∈ items.dropWhile test := by
    intro items listed
    rw [← List.takeWhile_append_dropWhile (p := test) (l := items), List.mem_append] at listed
    refine listed.resolve_left fun taken => ?_
    simp [List.mem_takeWhile_imp taken] at fails
  rw [trimmed, List.rdropWhile, List.mem_reverse]
  exact kept _ (List.mem_reverse.mpr (kept items listed))

/-- Trimming pictures is trimming by the test of the picture. -/
theorem trimmed_map {β : Type} (test : β → Bool) (view : α → β) (items : List α) :
    trimmed test (items.map view) = (trimmed (test ∘ view) items).map view := by
  simp only [trimmed, List.rdropWhile, List.dropWhile_map, ← List.map_reverse]

/-- An item behind a list that passes the test is dropped. -/
theorem trimmed_concat {test : α → Bool} {item : α} (passes : test item = true) (items : List α) :
    trimmed test (items ++ [item]) = trimmed test items := by
  -- The new item stands at the end that is trimmed, or the front has swallowed everything.
  rw [trimmed, trimmed, List.dropWhile_append]
  split
  · rename_i swallowed
    simp [List.isEmpty_iff.mp swallowed, passes]
  · exact List.rdropWhile_concat_pos _ _ _ passes

end Trimming

section Runs

variable {α : Type} {test : α → Bool} {items middle rest : List α}

/-- A list without the longest run of items at its front that pass a test. -/
def StripsFront (test : α → Bool) (items rest : List α) : Prop :=
  -- The run goes on up to an item that fails.
  ∃ front, items = front ++ rest ∧ (∀ item ∈ front, test item = true) ∧
    ∀ item ∈ rest.head?, test item = false

/-- A list without the longest run of items at its back that pass a test. -/
def StripsBack (test : α → Bool) (items rest : List α) : Prop :=
  -- The run starts behind an item that fails.
  ∃ back, items = rest ++ back ∧ (∀ item ∈ back, test item = true) ∧
    ∀ item ∈ rest.getLast?, test item = false

/-- A list without the longest runs of items at either end that pass a test. -/
def StripsBoth (test : α → Bool) (items rest : List α) : Prop :=
  -- What is left is empty, or an item that fails stands at either end of it.
  ∃ front back, items = front ++ rest ++ back ∧ (∀ item ∈ front ++ back, test item = true) ∧
    (∀ item ∈ rest.head?, test item = false) ∧ ∀ item ∈ rest.getLast?, test item = false

/-- Only one list is left without the run at the front. -/
theorem dropWhile_eq_iff : items.dropWhile test = rest ↔ StripsFront test items rest := by
  constructor
  · -- What is dropped passes, and the first item left fails.
    rintro rfl
    refine ⟨items.takeWhile test, List.takeWhile_append_dropWhile.symm,
      fun item => List.mem_takeWhile_imp, fun item first => ?_⟩
    have fails := List.head?_dropWhile_not test items
    rwa [Option.mem_def.mp first] at fails
  · -- The front is dropped whole, and nothing further.
    rintro ⟨front, rfl, passes, fails⟩
    rw [List.dropWhile_append_of_pos passes]
    cases rest with
    | nil => rfl
    | cons item rest => exact List.dropWhile_cons_of_neg (by simp [fails item rfl])

/-- A list ends as its reverse starts. -/
theorem stripsBack_iff :
    StripsBack test items rest ↔ StripsFront test items.reverse rest.reverse := by
  -- The back of a list is the front of the reversed one.
  rw [StripsBack, StripsFront, List.head?_reverse]
  constructor
  · rintro ⟨back, rfl, passes, fails⟩
    exact ⟨back.reverse, by simp, by simpa using passes, fails⟩
  · rintro ⟨front, split, passes, fails⟩
    refine ⟨front.reverse, ?_, by simpa using passes, fails⟩
    rw [← List.reverse_inj, split, List.reverse_append, List.reverse_reverse]

/-- Only one list is left without the run at the back. -/
theorem rdropWhile_eq_iff : items.rdropWhile test = rest ↔ StripsBack test items rest := by
  rw [stripsBack_iff, ← dropWhile_eq_iff, List.rdropWhile, List.reverse_eq_iff]

/-- What is left without the run at the front has none there. -/
theorem StripsFront.again (strips : StripsFront test items rest) : StripsFront test rest rest := by
  obtain ⟨front, -, -, fails⟩ := strips
  exact ⟨[], rfl, by simp, fails⟩

/-- What is left without the run at the back has none there. -/
theorem StripsBack.again (strips : StripsBack test items rest) : StripsBack test rest rest := by
  obtain ⟨back, -, -, fails⟩ := strips
  exact ⟨[], by simp, by simp, fails⟩

/-- What is left without either run has none at either end. -/
theorem StripsBoth.again (strips : StripsBoth test items rest) : StripsBoth test rest rest := by
  obtain ⟨front, back, -, -, fails⟩ := strips
  exact ⟨[], [], by simp, by simp, fails⟩

/-- First the run at the front goes, and then the one at the back. -/
theorem StripsFront.stripsBoth (first : StripsFront test items middle)
    (second : StripsBack test middle rest) : StripsBoth test items rest := by
  -- The first item left is still the first once the back is gone.
  obtain ⟨front, rfl, passes, starts⟩ := first
  obtain ⟨back, rfl, others, ends⟩ := second
  refine ⟨front, back, by simp, ?_, fun item leads => starts item ?_, ends⟩
  · exact List.forall_mem_append.mpr ⟨passes, others⟩
  · simp [Option.mem_def.mp leads]

/-- First the run at the back goes, and then the one at the front. -/
theorem StripsBack.stripsBoth (first : StripsBack test items middle)
    (second : StripsFront test middle rest) : StripsBoth test items rest := by
  -- The last item left is still the last once the front is gone.
  obtain ⟨back, rfl, others, ends⟩ := first
  obtain ⟨front, rfl, passes, starts⟩ := second
  refine ⟨front, back, by simp, ?_, starts, fun item closes => ends item ?_⟩
  · exact List.forall_mem_append.mpr ⟨passes, others⟩
  · simp [Option.mem_def.mp closes]

/-- Only one list is left without the runs at both ends. -/
theorem trimmed_eq_iff : trimmed test items = rest ↔ StripsBoth test items rest := by
  constructor
  · -- Trimming is stripping one end after the other.
    rintro rfl
    exact (dropWhile_eq_iff.mp rfl).stripsBoth (rdropWhile_eq_iff.mp rfl)
  · -- The two ends pass and what is between them starts and ends with items that fail.
    rintro ⟨front, back, rfl, passes, starts, ends⟩
    rw [List.forall_mem_append] at passes
    rw [trimmed, List.append_assoc, List.dropWhile_append_of_pos passes.1]
    cases rest with
    | nil => simp [List.dropWhile_eq_nil_iff.mpr passes.2]
    | cons item rest =>
      rw [List.cons_append, List.dropWhile_cons_of_neg (by simp [starts item rfl]),
        rdropWhile_eq_iff]
      exact ⟨back, rfl, passes.2, ends⟩

end Runs

end PhpOutline
