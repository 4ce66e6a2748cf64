import Mathlib
import PhpOutline.Proofs.Heritage.Comments
import PhpOutline.Proofs.Text.ByteOrder

/-!
What the full names of parents and interfaces depend on.

A short name stands for the greatest import that ends in it, else for a name in the namespace.
Neither the order of the imports nor how often one is written plays a part.
-/

namespace PhpOutline

/-- A name is, or has behind its last backslash, the given segment. -/
def EndsInSegment (name segment : String) : Prop :=
  -- A segment has no backslash of its own.
  '\\' ∉ segment.toList ∧ (name = segment ∨ ∃ stem, name = stem ++ "\\" ++ segment)

/-- The last segment of a name is the one that it ends in. -/
theorem lastSegment_eq_iff {name segment : String} :
    lastSegment name = segment ↔ EndsInSegment name segment := by
  -- Read backwards, a name is its last segment and then, if there is one, a backslash.
  have unfolded : lastSegment name = segment ↔
      name.toList.reverse.takeWhile (· != '\\') = segment.toList.reverse := by
    rw [lastSegment, ← String.toList_inj, String.toList_ofList, List.reverse_eq_iff]
  rw [unfolded]
  constructor
  · intro taken
    have clear : '\\' ∉ segment.toList := by
      intro listed
      have kept : '\\' ∈ name.toList.reverse.takeWhile (· != '\\') := by
        rw [taken]
        exact List.mem_reverse.mpr listed
      simpa using List.mem_takeWhile_imp kept
    refine ⟨clear, ?_⟩
    have parts := List.takeWhile_append_dropWhile (p := (· != '\\')) (l := name.toList.reverse)
    have stopped := List.head?_dropWhile_not (· != '\\') name.toList.reverse
    rw [taken] at parts
    cases left : name.toList.reverse.dropWhile (· != '\\') with
    | nil =>
      rw [left, List.append_nil, List.reverse_inj, String.toList_inj] at parts
      exact .inl parts.symm
    | cons char stem =>
      obtain rfl : char = '\\' := by simpa [left] using stopped
      refine .inr ⟨String.ofList stem.reverse, ?_⟩
      rw [left, ← List.reverse_inj, List.reverse_reverse] at parts
      rw [← String.toList_inj, ← parts]
      simp
  · rintro ⟨clear, ends⟩
    have passes : ∀ char ∈ segment.toList.reverse, (char != '\\') = true := by
      intro char listed
      have apart : char ≠ '\\' := by
        rintro rfl
        exact clear (List.mem_reverse.mp listed)
      simpa using apart
    rcases ends with rfl | ⟨stem, rfl⟩
    · exact List.takeWhile_eq_self_iff.mpr passes
    · have chars : (stem ++ "\\" ++ segment).toList.reverse =
          segment.toList.reverse ++ '\\' :: stem.toList.reverse := by simp
      rw [chars, List.takeWhile_append_of_pos passes]
      simp

/-- What is left of a name behind the backslashes at its front. -/
theorem stripLeadingSeparators_eq_iff {name bare : String} :
    stripLeadingSeparators name = bare ↔
      startsAtRoot bare = false ∧
        ∃ count, name.toList = List.replicate count '\\' ++ bare.toList := by
  constructor
  · -- What is left starts with no separator, and what went was a run of them.
    rintro rfl
    refine ⟨startsAtRoot_stripLeadingSeparators name, ?_⟩
    rw [stripLeadingSeparators, String.toList_ofList]
    exact exists_replicate_dropWhile '\\' name.toList
  · -- Dropping the run leaves a text from which nothing more is dropped.
    rintro ⟨relative, count, chars⟩
    rw [← stripLeadingSeparators_eq_self relative, stripLeadingSeparators, stripLeadingSeparators,
      chars, List.dropWhile_append_of_pos (by simp)]

/-- The full name that a short one stands for, among some imports and in a namespace or none. -/
inductive StandsFor (imported : Set String) (space? : Option String) (name : String) :
    String → Prop where
  /-- Of the imports that end in the name, the greatest by its bytes. -/
  | greatest {full : String} (known : full ∈ imported) (ends : EndsInSegment full name)
      (above : ∀ other ∈ imported, EndsInSegment other name → bytesOf other ≤ bytesOf full) :
      StandsFor imported space? name full
  /-- Without such an import, what the name has behind its leading backslashes, in the namespace. -/
  | inSpace {space bare : String} (unknown : ∀ other ∈ imported, ¬EndsInSegment other name)
      (declared : space? = some space) (relative : startsAtRoot bare = false)
      (rooted : ∃ count, name.toList = List.replicate count '\\' ++ bare.toList) :
      StandsFor imported space? name (space ++ "\\" ++ bare)
  /-- Without such an import and without a namespace, the name itself. -/
  | itself (unknown : ∀ other ∈ imported, ¬EndsInSegment other name) (absent : space? = none) :
      StandsFor imported space? name name

/-- Texts are in order exactly when their bytes are. -/
theorem bytesOf_le_iff {left right : String} : bytesOf left ≤ bytesOf right ↔ left ≤ right := by
  -- The strict orders agree, and a text that is not below another is equal to it or above it.
  constructor
  · intro ordered
    by_contra above
    exact ordered (bytesOf_lt (String.not_le.mp above))
  · intro ordered
    by_cases same : left = right
    · rw [same]
      exact List.le_refl _
    · have below : left < right := String.not_le.mp fun above =>
        same (String.le_antisymm ordered above)
      exact List.le_of_lt (bytesOf_lt below)

/-- A short name stands for one full name. -/
theorem StandsFor.unique {imported : Set String} {space? : Option String} {name full other : String}
    (stands : StandsFor imported space? name full)
    (again : StandsFor imported space? name other) : full = other := by
  cases stands with
  | greatest known ends above =>
    cases again with
    | greatest present closes beyond =>
      -- Each of the two is at least as great as the other.
      exact String.le_antisymm (bytesOf_le_iff.mp (beyond _ known ends))
        (bytesOf_le_iff.mp (above _ present closes))
    | inSpace unknown => exact absurd ends (unknown _ known)
    | itself unknown => exact absurd ends (unknown _ known)
  | inSpace unknown declared relative rooted =>
    cases again with
    | greatest present closes => exact absurd closes (unknown _ present)
    | inSpace _ same apart chars =>
      obtain rfl := Option.some.inj (declared.symm.trans same)
      rw [← stripLeadingSeparators_eq_iff.mpr ⟨relative, rooted⟩,
        ← stripLeadingSeparators_eq_iff.mpr ⟨apart, chars⟩]
    | itself _ absent => simp [declared] at absent
  | itself unknown absent =>
    cases again with
    | greatest present closes => exact absurd closes (unknown _ present)
    | inSpace _ declared => simp [absent] at declared
    | itself => rfl

/-- A scope with its imports in order completes a name to what the name stands for. -/
theorem NameScope.standsFor_qualify {scope : NameScope}
    (sorted : scope.imported.Pairwise fun left right => left ≤ right) (name : String) :
    StandsFor {imported | imported ∈ scope.imported} scope.space? name (scope.qualify name) := by
  rw [qualify]
  cases found : scope.imported.reverse.find? fun imported => lastSegment imported == name with
  | some full =>
    obtain ⟨ends, later, earlier, split, missed⟩ := List.find?_eq_some_iff_append.mp found
    have known : full ∈ scope.imported := List.mem_reverse.mp (by simp [split])
    have ending : EndsInSegment full name := lastSegment_eq_iff.mp (by simpa using ends)
    refine .greatest known ending fun other listed closes => ?_
    -- What comes before it in the search does not end in the name, so the other one is not greater.
    have reversed := List.pairwise_reverse.mpr sorted
    rw [split, List.pairwise_append, List.pairwise_cons] at reversed
    have place : other ∈ later ++ full :: earlier := by
      rw [← split]
      exact List.mem_reverse.mpr listed
    rw [bytesOf_le_iff]
    rcases List.mem_append.mp place with before | behind
    · have refused := missed other before
      simp [lastSegment_eq_iff.mpr closes] at refused
    · rcases List.mem_cons.mp behind with rfl | behind
      · exact String.le_refl _
      · exact reversed.2.1.1 other behind
  | none =>
    have unknown : ∀ other ∈ {imported | imported ∈ scope.imported}, ¬EndsInSegment other name := by
      intro other listed closes
      have refused := List.find?_eq_none.mp found other (List.mem_reverse.mpr listed)
      simp [lastSegment_eq_iff.mpr closes] at refused
    cases space : scope.space? with
    | some space =>
      obtain ⟨relative, rooted⟩ :=
        stripLeadingSeparators_eq_iff.mp (rfl : stripLeadingSeparators name = _)
      exact .inSpace unknown rfl relative rooted
    | none => exact .itself unknown rfl

/-- In the scope of a list a name becomes what it stands for among the imports as written. -/
theorem qualify_eq_iff (tokens : List Token) {name full : String} :
    (NameScope.of tokens).qualify name = full ↔
      StandsFor {imported | imported ∈ imports false tokens} (namespaceName? tokens) name full := by
  -- Qualifying looks the name up in the sorted imports, whose set is that of the written ones.
  have sorted : (NameScope.of tokens).imported.Pairwise fun left right => left ≤ right := by
    have ordered : List.Pairwise (fun left right => decide (left ≤ right) = true)
        ((writtenImports tokens).mergeSort fun left right => decide (left ≤ right)) :=
      List.pairwise_mergeSort (by simpa using fun _ _ _ => String.le_trans)
        (by simpa using String.le_total) _
    simpa [NameScope.of, imports] using ordered
  have same : {imported | imported ∈ (NameScope.of tokens).imported} =
      {imported | imported ∈ imports false tokens} := by
    ext imported
    simp [NameScope.of, imports, List.mem_mergeSort]
  have stands := NameScope.standsFor_qualify sorted name
  rw [same] at stands
  -- A name stands for one full name only.
  constructor
  · rintro rfl
    exact stands
  · exact stands.unique

/-- The full name of a parent is its short one completed in the scope of the list. -/
theorem parentName?_qualified (tokens : List Token) :
    parentName? true tokens = (parentName? false tokens).map (NameScope.of tokens).qualify := by
  rw [parentName?, parentName?]
  cases parentSpans tokens <;> rfl

/--
Full names depend on the set of imports, not on how the imports are written.

Each full name is what the short one stands for among the imports, be it a parent or an interface.
So two lists with the same short names, the same namespace and the same imports in any order and
number have the same full names.
-/
theorem full_names_by_import_set (tokens : List Token) :
    (∀ name full, (NameScope.of tokens).qualify name = full ↔
      StandsFor {imported | imported ∈ imports false tokens} (namespaceName? tokens) name full) ∧
    interfaceNames true tokens =
      (interfaceNames false tokens).map (NameScope.of tokens).qualify ∧
    parentName? true tokens = (parentName? false tokens).map (NameScope.of tokens).qualify ∧
    ∀ others : List Token, namespaceName? tokens = namespaceName? others →
      (∀ imported, imported ∈ imports false tokens ↔ imported ∈ imports false others) →
      (interfaceNames false tokens = interfaceNames false others →
        interfaceNames true tokens = interfaceNames true others) ∧
      (parentName? false tokens = parentName? false others →
        parentName? true tokens = parentName? true others) := by
  -- With the same imports, in whatever order, every name is qualified the same way.
  refine ⟨fun _ _ => qualify_eq_iff tokens, interfaceNames_qualified tokens,
    parentName?_qualified tokens, ?_⟩
  intro others space imported
  have alike : (NameScope.of tokens).qualify = (NameScope.of others).qualify := by
    funext name
    rw [qualify_eq_iff tokens, space, show {name | name ∈ imports false tokens} =
      {name | name ∈ imports false others} from Set.ext imported]
    exact (qualify_eq_iff others).mp rfl
  constructor
  · intro short
    rw [interfaceNames_qualified, interfaceNames_qualified, short, alike]
  · intro short
    rw [parentName?_qualified, parentName?_qualified, short, alike]

/--
Imports that are written in another order and number give the same full names.

Of the two imports that end in the parent's name the greater one is meant, and the interface lies
in the namespace.
-/
theorem full_names_by_import_set_reordered :
    let name (text : String) : Token := .typed .identifier text 1
    let slash : Token := .typed .nameSeparator "\\" 1
    let imported (space : String) : List Token :=
      [name "V", slash, name space, slash, name "Log"]
    let use : Token := .typed (.word .useWord) "use" 1
    let head : List Token := [.typed (.word .namespaceWord) "namespace" 1,
      .typed .whitespace " " 1, name "N", .symbol ';']
    let declaration : List Token := [.typed (.word .classWord) "class" 1, name "C",
      .typed (.word .extendsWord) "extends" 1, name "Log",
      .typed (.word .implementsWord) "implements" 1, slash, name "X", .symbol '\x7b',
      .symbol '\x7d']
    let tokens := head ++ use :: imported "B" ++ .symbol ';' :: use :: imported "A" ++
      .symbol ';' :: declaration
    let others := head ++ use :: imported "A" ++ .symbol ',' :: imported "B" ++ .symbol ';' ::
      use :: imported "B" ++ .symbol ';' :: declaration
    imports false tokens = ["V\\B\\Log", "V\\A\\Log"] ∧
      imports false others = ["V\\A\\Log", "V\\B\\Log", "V\\B\\Log"] ∧
      parentName? true tokens = some "V\\B\\Log" ∧ interfaceNames true tokens = ["N\\X"] ∧
      parentName? true others = parentName? true tokens ∧
      interfaceNames true others = interfaceNames true tokens := by
  intro name slash imported use head declaration tokens others
  -- What is written in the two lists: the imports differ in order, all else agrees.
  have written : imports false tokens = ["V\\B\\Log", "V\\A\\Log"] := by
    unfold tokens
    cbv
  have rewritten : imports false others = ["V\\A\\Log", "V\\B\\Log", "V\\B\\Log"] := by
    unfold others
    cbv
  have space : namespaceName? tokens = some "N" ∧ namespaceName? others = some "N" := by
    unfold tokens others
    constructor <;> cbv
  have parent : parentName? false tokens = some "Log" ∧ parentName? false others = some "Log" := by
    unfold tokens others
    constructor <;> cbv
  have interfaces :
      interfaceNames false tokens = ["\\X"] ∧ interfaceNames false others = ["\\X"] := by
    unfold tokens others
    constructor <;> cbv
  -- From here on only the theorem speaks about the lists.
  clear_value tokens others
  obtain ⟨stands, listed, named, alike⟩ := full_names_by_import_set tokens
  have same := alike others (by rw [space.1, space.2]) (by simp [written, rewritten, or_comm])
  refine ⟨written, rewritten, ?_, ?_, (same.2 (by rw [parent.1, parent.2])).symm,
    (same.1 (by rw [interfaces.1, interfaces.2])).symm⟩
  · -- Of the two imports that end in `Log` the greater one stands for it.
    rw [named, parent.1, Option.map_some, (stands "Log" "V\\B\\Log").mpr]
    rw [written]
    refine .greatest (by simp) ⟨by decide, .inr ⟨"V\\B", by decide⟩⟩ fun other known _ => ?_
    rw [bytesOf_le_iff]
    have either : other = "V\\B\\Log" ∨ other = "V\\A\\Log" := by simpa using known
    rcases either with rfl | rfl <;> decide
  · -- No import ends in the rooted name, so it stands in the namespace.
    rw [listed, interfaces.1, List.map_singleton, (stands "\\X" ("N" ++ "\\" ++ "X")).mpr]
    · decide
    · refine .inSpace (fun other _ ends => ?_) space.1 (by decide) ⟨1, by decide⟩
      exact ends.1 (by decide)

end PhpOutline
