import Mathlib
import PhpOutline.Proofs.FileTree.Growth

/-!
A tree without one of its files.

Paths that led elsewhere go on to lead there, since a path goes through directories and links only.
If no link leads to the file, a walk that did not break off does not do so without the file either,
and meets nothing that it did not meet before.
-/

namespace PhpOutline

/-- Without the entries of a key, only the key is looked up in vain. -/
theorem lookup_filter_ne {α β : Type} [BEq α] [LawfulBEq α] (key other : α)
    (entries : List (α × β)) :
    (entries.filter (·.1 != key)).lookup other =
      if other == key then none else entries.lookup other := by
  -- Over the entries: one with the removed key is gone, any other is met as before.
  induction entries with
  | nil => simp
  | cons entry rest ih =>
    obtain ⟨own, value⟩ := entry
    by_cases same : own = key
    · subst same
      cases asked : other == own <;> simpa [List.lookup_cons, asked] using ih
    · cases asked : other == own with
      | true => simp_all
      | false => simp [List.lookup_cons, same, asked, ih]

namespace FileTree

variable {tree : FileTree} {location : Location} {bytes : ByteArray}

/-- Whether a link leads to a location. -/
def IsLinkTarget (tree : FileTree) (location : Location) : Prop :=
  -- A link is followed from the directory that it stands in.
  ∃ directory name target, tree.get? (directory ++ [name]) = some (.link target) ∧
    tree.follow linkLimit directory [name] = .ok location

/-- What stands further down stands below a directory. -/
theorem WellFormed.directory_above (wellFormed : tree.WellFormed) {place : Location}
    {names : List String} {entry : FileEntry} (below : names ≠ [])
    (here : tree.get? (place ++ names) = some entry) : tree.get? place = some .directory := by
  -- The way up goes through the directory of each entry.
  induction names using List.reverseRecOn generalizing entry with
  | nil => exact absurd rfl below
  | append_singleton front name ih =>
    rw [← List.append_assoc] at here
    have listed := mem_names_iff.mp (mem_names_iff_get?.mpr ⟨entry, here⟩)
    have inside := (wellFormed.inside _ listed).2
    rw [List.dropLast_concat] at inside
    by_cases top : front = []
    · rwa [top, List.append_nil] at inside
    · exact ih top inside

/-- Nothing but the file itself is removed with it. -/
theorem WellFormed.entries_erase (wellFormed : tree.WellFormed)
    (file : tree.get? location = some (.file bytes)) :
    (tree.erase location).entries = tree.entries.filter (·.1 != location) := by
  -- Nothing stands below a file, so of all prefixes only the file itself is removed.
  apply List.filter_congr
  intro entry listed
  rw [Bool.not_eq_eq_eq_not, bne, Bool.not_not, Bool.eq_iff_iff, List.isPrefixOf_iff_prefix,
    beq_iff_eq]
  constructor
  · rintro ⟨names, joined⟩
    by_contra apart
    obtain ⟨other, there⟩ := exists_get?_of_mem (List.mem_map_of_mem listed)
    rw [← joined] at there apart
    have directory := wellFormed.directory_above (by rintro rfl; simp at apart) there
    rw [file] at directory
    simp at directory
  · intro same
    rw [same]

/-- Everything but the file stands where it stood. -/
theorem WellFormed.get?_erase (wellFormed : tree.WellFormed)
    (file : tree.get? location = some (.file bytes)) (place : Location) :
    (tree.erase location).get? place = if place = location then none else tree.get? place := by
  by_cases root : place = []
  · -- The root is in no entry, and it is no file.
    subst root
    have below : [] ≠ location := by
      rintro rfl
      simp [get?] at file
    rw [if_neg below]
    rfl
  · -- Below the root a lookup in the filtered entries decides.
    have below : ¬place.isEmpty = true := by simpa using root
    rw [get?, get?, if_neg below, if_neg below, wellFormed.entries_erase file, lookup_filter_ne]
    simp only [beq_iff_eq]

/-- With the file, the tree is one that has grown by it. -/
theorem WellFormed.grows_erase (wellFormed : tree.WellFormed)
    (file : tree.get? location = some (.file bytes)) :
    (tree.erase location).Grows tree location bytes where
  start := rfl
  old place entry found := by
    -- What is left was there.
    rw [wellFormed.get?_erase file] at found
    split at found
    · simp at found
    · exact found
  new place entry missing found := by
    -- The one entry that is missing is that of the file.
    rw [wellFormed.get?_erase file] at missing
    split at missing
    · rename_i same
      rw [same, file] at found
      exact .inr ⟨same, (Option.some.inj found).symm⟩
    · simp [found] at missing
  created := file

/-- A well-formed tree stays so when a file is removed. -/
theorem WellFormed.erase (wellFormed : tree.WellFormed)
    (file : tree.get? location = some (.file bytes)) : (tree.erase location).WellFormed := by
  -- The entries left are some of the old ones, and no parent among them was the file.
  have kept : (tree.erase location).entries.Sublist tree.entries := by
    rw [wellFormed.entries_erase file]
    exact List.filter_sublist
  have old := (kept.map Prod.fst).subset
  refine ⟨wellFormed.distinct.sublist (kept.map _), fun place listed => ?_, fun place listed => ?_⟩
  · exact wellFormed.named place (old listed)
  · obtain ⟨below, directory⟩ := wellFormed.inside place (old listed)
    refine ⟨below, ?_⟩
    rw [wellFormed.get?_erase file, if_neg, directory]
    intro same
    rw [same, file] at directory
    simp at directory

section Paths

variable (wellFormed : tree.WellFormed) (file : tree.get? location = some (.file bytes))
include wellFormed file

/-- A move that leads on does not need the file, unless it leads to it. -/
theorem WellFormed.move_erase {place : Location} {piece : String}
    (onward : ∀ cause, tree.move place piece ≠ .stop cause)
    (elsewhere : tree.move place piece ≠ .go location) :
    (tree.erase location).move place piece = tree.move place piece := by
  have here : (tree.erase location).get? place = tree.get? place := by
    rw [wellFormed.get?_erase file, if_neg]
    rintro rfl
    simp [move, file] at onward
  by_cases same : place ++ [piece] = location
  · -- A piece that names the file would lead to it.
    simp only [move, here, same, file] at elsewhere ⊢
    cases standing : tree.get? place with
    | none => rfl
    | some entry =>
      cases entry with
      | file bytes => rfl
      | link target => rfl
      | directory =>
        simp only [standing] at elsewhere ⊢
        split_ifs at elsewhere ⊢
        · rfl
        · rfl
        · rfl
        · exact absurd rfl elsewhere
  · rw [move, move, here, wellFormed.get?_erase file, if_neg same]

/-- A path that leads elsewhere does not need the file. -/
theorem WellFormed.follow_erase {links : Nat} {start place : Location} {pieces : List String}
    (leads : tree.follow links start pieces = .ok place) (elsewhere : place ≠ location) :
    (tree.erase location).follow links start pieces = .ok place := by
  -- From the file itself no piece leads on.
  have stuck (links : Nat) (rest : List String) : tree.follow links location rest ≠ .ok place := by
    cases rest with
    | nil => simpa using elsewhere.symm
    | cons piece rest => simp [follow_cons, move, file]
  induction links, start, pieces using follow_induction tree with
  | done links start => simpa using leads
  | stop links start piece rest cause moved => simp [follow_cons, moved] at leads
  | go links start piece rest next moved ih =>
    have same : (tree.erase location).move start piece = .go next := by
      rw [wellFormed.move_erase file (by simp [moved]), moved]
      rintro onto
      obtain rfl := Move.go.inj (moved.symm.trans onto)
      simp only [follow_cons, moved] at leads
      exact stuck links rest leads
    simp only [follow_cons, moved, same] at leads ⊢
    exact ih leads
  | spent start piece rest begin target moved => simp [follow_cons, moved] at leads
  | jump left start piece rest begin target moved ih =>
    have same : (tree.erase location).move start piece = .jump begin target := by
      rw [wellFormed.move_erase file (by simp [moved]) (by simp [moved]), moved]
    simp only [follow_cons, moved, same] at leads ⊢
    split
    · rename_i empty
      simp [empty] at leads
    · rename_i named
      rw [if_neg named] at leads
      exact ih leads

/-- A path that leads elsewhere does so without the file. -/
theorem WellFormed.locate_erase {path : String} {place : Location}
    (located : tree.locate path = .ok place) (elsewhere : place ≠ location) :
    (tree.erase location).locate path = .ok place := by
  -- The checks on the text of the path are the same, and the rest is following it.
  unfold locate at located ⊢
  split_ifs at located ⊢
  all_goals exact wellFormed.follow_erase file located elsewhere

variable {skipHidden : Bool} {outer : List OpenDirectory} {directory : OpenDirectory}
  {names : List String} (unlinked : ¬tree.IsLinkTarget location)
include unlinked

/-- A walk does the same about another name as before, unless it broke off there. -/
theorem WellFormed.meet_erase {name : String}
    (listed : name ∈ (tree.erase location).names directory.location)
    (sound : ∀ cause, tree.meet skipHidden outer directory name ≠ .fault cause) :
    (tree.erase location).meet skipHidden outer directory name =
      tree.meet skipHidden outer directory name := by
  -- An entry that is left is what it was, and a link of it does not lead to the file.
  obtain ⟨entry, left⟩ := mem_names_iff_get?.mp listed
  have here := (wellFormed.grows_erase file).old _ entry left
  unfold meet at sound ⊢
  rw [left]
  rw [here] at sound ⊢
  cases entry with
  | file bytes => rfl
  | directory => rfl
  | link target =>
    cases followed : tree.follow linkLimit directory.location [name] with
    | error cause => simp [followed] at sound
    | ok place =>
      have elsewhere : place ≠ location := by
        rintro rfl
        exact unlinked ⟨directory.location, name, target, here, followed⟩
      simp only [wellFormed.follow_erase file followed elsewhere, wellFormed.get?_erase file,
        if_neg elsewhere]

/-- Without the file, a walk that did not break off meets nothing new. -/
theorem WellFormed.walkBelow_erase
    (sound : ∀ result ∈ tree.walkBelow skipHidden outer directory names,
      ∃ visit, result = .ok visit) :
    ∀ result ∈ (tree.erase location).walkBelow skipHidden outer directory names,
      result ∈ tree.walkBelow skipHidden outer directory names := by
  -- The induction is on the directories that the walk goes through.
  induction outer, directory, names using walkBelow_induction tree skipHidden with
  | step outer directory names ih =>
    simp only [walkBelow_eq, List.mem_flatMap, forall_exists_index, and_imp] at sound ⊢
    intro result name listed found
    obtain ⟨entry, left⟩ := mem_names_iff_get?.mp listed
    have known : name ∈ tree.names directory.location :=
      mem_names_iff_get?.mpr ⟨entry, (wellFormed.grows_erase file).old _ entry left⟩
    have fine := fun result => sound result name known
    refine ⟨name, known, ?_⟩
    have same : (tree.erase location).meet skipHidden outer directory name =
        tree.meet skipHidden outer directory name := by
      apply wellFormed.meet_erase file unlinked listed
      intro cause met
      simp [FileTree.found, met] at fine
    simp only [FileTree.found, same] at found fine ⊢
    cases met : tree.meet skipHidden outer directory name with
    | nothing => simp [met] at found
    | file => simpa [met] using found
    | fault cause => simpa [met] using found
    | inner place =>
      simp only [met] at found fine ⊢
      exact ih name place met fine result found

end Paths

end FileTree

end PhpOutline
