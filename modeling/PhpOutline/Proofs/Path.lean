import Mathlib
import PhpOutline.Proofs.FileTree.Follow

/-!
Paths are ordered by their components.

The order is total, and paths that lead below the same directory are told apart by it.
-/

namespace PhpOutline

/-- What decides where a component stands. -/
def PathComponent.key : PathComponent → Nat ×ₗ String
  -- Components of one sort differ only if they are names.
  | .name text => toLex (PathComponent.rank (.name text), text)
  | component => toLex (component.rank, "")

/-- A component stands before another if its key is lower. -/
theorem PathComponent.before_iff {left right : PathComponent} :
    left.before right = true ↔ left.key < right.key := by
  cases left <;> cases right <;>
    simp [PathComponent.before, PathComponent.key, PathComponent.rank, Prod.Lex.lt_iff]

/-- No two components have the same key. -/
theorem PathComponent.key_injective : Function.Injective PathComponent.key := by
  -- Two constructors have two ranks, and a name is its own key.
  intro left right same
  cases left <;> cases right <;>
    simp_all [PathComponent.key, PathComponent.rank]

/-- The keys of the components of a path. -/
def pathKeys (path : String) : List (Nat ×ₗ String) :=
  -- Lists are ordered by their first difference.
  (pathComponents path).map PathComponent.key

/-- Components are ordered like their keys. -/
theorem componentsOrdered_iff {left right : List PathComponent} :
    componentsOrdered left right = true ↔
      left.map PathComponent.key ≤ right.map PathComponent.key := by
  -- Component by component: the first two that differ decide.
  have order (lefts rights : List (Nat ×ₗ String)) :
      lefts ≤ rights ↔ List.Lex (· < ·) lefts rights ∨ lefts = rights := le_iff_lt_or_eq
  induction left generalizing right with
  | nil => cases right <;> simp [componentsOrdered, order]
  | cons first rest ih =>
    cases right with
    | nil => simp [componentsOrdered, order]
    | cons second others =>
      simp only [order] at ih
      simp only [componentsOrdered, Bool.or_eq_true, Bool.and_eq_true, beq_iff_eq,
        PathComponent.before_iff, ih, List.map_cons, order, List.cons_lex_cons_iff,
        List.cons.injEq, PathComponent.key_injective.eq_iff]
      tauto

/-- Paths are ordered like the keys of their components. -/
theorem pathOrdered_iff {left right : String} :
    pathOrdered left right = true ↔ pathKeys left ≤ pathKeys right :=
  componentsOrdered_iff

/-- Paths that are ordered both ways have the same components. -/
theorem pathComponents_eq_of_pathOrdered {left right : String}
    (below : pathOrdered left right = true) (above : pathOrdered right left = true) :
    pathComponents left = pathComponents right := by
  -- The order of the keys is antisymmetric, and keys determine their components.
  have same : pathKeys left = pathKeys right :=
    le_antisymm (pathOrdered_iff.mp below) (pathOrdered_iff.mp above)
  exact List.map_injective_iff.mpr PathComponent.key_injective same

/-- Sorted paths are in order. -/
theorem pairwise_mergeSort_pathOrdered (paths : List String) :
    (paths.mergeSort pathOrdered).Pairwise fun left right => pathOrdered left right = true := by
  -- The order of the paths is that of their keys, which is transitive and total.
  apply List.pairwise_mergeSort
  · intro first second third
    simp only [pathOrdered_iff]
    exact le_trans
  · intro left right
    simp only [Bool.or_eq_true, pathOrdered_iff]
    exact le_total _ _

section Below

variable {path : String} {names : List String}

/-- The names that a path grows by come behind its stem. -/
theorem pathStem_foldl_joinPath (nonempty : path ≠ "") (valid : ∀ name ∈ names, IsFileName name) :
    names.foldl joinPath path ≠ "" ∧
      pathStem (names.foldl joinPath path) = pathStem path ++ names := by
  -- Name by name: each is one more piece, and the path so far is never empty.
  induction names generalizing path with
  | nil => exact ⟨nonempty, by simp⟩
  | cons name rest ih =>
    obtain ⟨filled, stem⟩ := pathStem_joinPath nonempty (valid name (by simp))
    obtain ⟨full, further⟩ := ih filled fun other listed => valid other (by simp [listed])
    exact ⟨full, by rw [List.foldl_cons, further, stem, List.append_assoc, List.singleton_append]⟩

/-- A path that has grown by names consists of its stem and the names. -/
theorem pathPieces_foldl_joinPath (nonempty : path ≠ "") (grown : names ≠ [])
    (valid : ∀ name ∈ names, IsFileName name) :
    pathPieces (names.foldl joinPath path) = pathStem path ++ names := by
  -- The last name decides, for the path ends in it.
  obtain ⟨front, last, rfl⟩ := List.eq_nil_or_concat' names |>.resolve_left grown
  have sound : ∀ name ∈ front, IsFileName name := fun name listed => valid name (by simp [listed])
  obtain ⟨full, stem⟩ := pathStem_foldl_joinPath nonempty sound
  rw [List.foldl_append, List.foldl_cons, List.foldl_nil,
    (joinPath_spec full (valid last (by simp))).2, stem, List.append_assoc]

/-- A path has pieces in front of any further name. -/
theorem pathStem_ne_nil (path : String) : pathStem path ≠ [] := by
  -- Splitting gives at least one piece, and the stem drops only the empty one behind a separator.
  by_cases ends : path.endsWith "/" = true
  · obtain ⟨front, rfl⟩ := endsWith_separator_iff.mp ends
    rw [(pathStem_append_separator front).1]
    simp [pathPieces, splitAt_ne_nil]
  · rw [pathStem, if_neg ends]
    simp [pathPieces, splitAt_ne_nil]

/-- A name is a component of its own. -/
theorem filterMap_ofPiece? (valid : ∀ name ∈ names, IsFileName name) :
    names.filterMap PathComponent.ofPiece? = names.map .name := by
  -- A file name is none of the pieces that are left out.
  rw [← List.filterMap_eq_map]
  apply List.filterMap_congr
  intro name listed
  have own := valid name listed
  simp [PathComponent.ofPiece?, own.nonempty, own.not_here, own.not_parent]

/-- The pieces of a path are its stem, or its stem and the empty piece behind a separator. -/
theorem pathPieces_eq_stem (path : String) :
    pathPieces path = pathStem path ∨ pathPieces path = pathStem path ++ [""] := by
  -- The pieces differ from the stem by the empty piece behind a separator.
  by_cases ends : path.endsWith "/" = true
  · obtain ⟨front, rfl⟩ := endsWith_separator_iff.mp ends
    obtain ⟨stem, pieces⟩ := pathStem_append_separator front
    exact .inr (by rw [pieces, stem])
  · exact .inl (by rw [pathStem, if_neg ends])

/-- Only an empty path has nothing but an empty piece. -/
theorem pathPieces_ne_empty (nonempty : path ≠ "") : pathPieces path ≠ [""] := by
  -- One empty piece alone comes from the empty path.
  intro pieces
  have whole : splitAt (· == '/') path.toList = [[]] := by
    rw [pathPieces, List.map_eq_singleton_iff] at pieces
    obtain ⟨chars, split, empty⟩ := pieces
    rw [split, String.ofList_eq_empty_iff.mp empty]
  exact nonempty (by simpa using (splitAt_eq_iff.mp whole).2.2)

/-- The components of a path are those of its stem, whose first piece tells where it starts. -/
theorem pathComponents_eq_stem (nonempty : path ≠ "") {first : String} {rest : List String}
    (stem : pathStem path = first :: rest) :
    pathComponents path =
      (if first = "" then [.root] else if first = "." then [.current] else []) ++
        (first :: rest).filterMap PathComponent.ofPiece? := by
  -- A separator at the end adds an empty piece, which leads nowhere.
  obtain ⟨tail, pieces, same⟩ : ∃ tail, pathPieces path = first :: tail ∧
      (first :: tail).filterMap PathComponent.ofPiece? =
        (first :: rest).filterMap PathComponent.ofPiece? := by
    rcases pathPieces_eq_stem path with whole | parted
    · exact ⟨rest, by rw [whole, stem], rfl⟩
    · exact ⟨rest ++ [""], by rw [parted, stem, List.cons_append],
        by simp [List.filterMap_cons, PathComponent.ofPiece?]⟩
  rw [pathComponents, pieces, same]
  congr 1
  by_cases absolute : first = ""
  · subst absolute
    cases tail with
    | nil => exact absurd pieces (pathPieces_ne_empty nonempty)
    | cons next others => rfl
  · by_cases here : first = "."
    · subst here
      rfl
    · rw [if_neg absolute, if_neg here]
      split
      · rename_i starts
        exact absurd (List.cons.inj starts).1 absolute
      · rename_i starts
        exact absurd (List.cons.inj starts).1 here
      · rfl

/-- A further name is one more component. -/
theorem pathComponents_joinPath {name : String} (nonempty : path ≠ "") (valid : IsFileName name) :
    pathComponents (joinPath path name) = pathComponents path ++ [.name name] := by
  -- The joined path has one piece more, and the name in it is kept as a component.
  obtain ⟨first, rest, stem⟩ := List.exists_cons_of_ne_nil (pathStem_ne_nil path)
  obtain ⟨filled, longer⟩ := pathStem_joinPath nonempty valid
  rw [stem, List.cons_append] at longer
  have last : [name].filterMap PathComponent.ofPiece? = [.name name] :=
    filterMap_ofPiece? (by simpa using valid)
  rw [pathComponents_eq_stem nonempty stem, pathComponents_eq_stem filled longer,
    ← List.cons_append, List.filterMap_append, last, List.append_assoc]

/-- The names that a path grows by are further components. -/
theorem pathComponents_foldl_joinPath (nonempty : path ≠ "")
    (valid : ∀ name ∈ names, IsFileName name) :
    pathComponents (names.foldl joinPath path) = pathComponents path ++ names.map .name := by
  -- Name by name: each is one more component, and the path so far is never empty.
  induction names generalizing path with
  | nil => simp
  | cons name rest ih =>
    have own := valid name (by simp)
    rw [List.foldl_cons, ih (pathStem_joinPath nonempty own).1
      fun other listed => valid other (by simp [listed]), pathComponents_joinPath nonempty own]
    simp

/-- Paths below the same directory with the same components are the same. -/
theorem foldl_joinPath_inj {others : List String} (nonempty : path ≠ "")
    (valid : ∀ name ∈ names, IsFileName name) (sound : ∀ name ∈ others, IsFileName name)
    (same : pathComponents (names.foldl joinPath path) =
      pathComponents (others.foldl joinPath path)) : names = others := by
  -- The components begin alike, and what is left are the names.
  rw [pathComponents_foldl_joinPath nonempty valid,
    pathComponents_foldl_joinPath nonempty sound] at same
  exact List.map_injective_iff.mpr (fun _ _ => PathComponent.name.inj)
    (List.append_cancel_left same)

end Below

end PhpOutline
