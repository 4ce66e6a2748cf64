import Mathlib
import PhpOutline.FileTree.Walk
import PhpOutline.Proofs.Path

/-!
What a walk meets, name by name.

Every file that a walk meets has a path of its own, which leads to the file.
-/

namespace PhpOutline

/-- A tree in which every entry has a place of its own in a directory. -/
structure FileTree.WellFormed (tree : FileTree) : Prop where
  distinct : (tree.entries.map Prod.fst).Nodup
  named : ∀ location ∈ tree.entries.map Prod.fst, ∀ name ∈ location, IsFileName name
  /-- The root has no entry, and every entry stands in a directory. -/
  inside : ∀ location ∈ tree.entries.map Prod.fst,
    location ≠ [] ∧ tree.get? location.dropLast = some .directory

/-- What a walk does about a name in a directory. -/
inductive Met where
  | nothing
  | file
  /-- A directory to walk through. -/
  | inner (location : Location)
  | fault (cause : WalkError)

/-- What a walk does about a name in a directory that it has come to through others. -/
def FileTree.meet (tree : FileTree) (skipHidden : Bool) (outer : List OpenDirectory)
    (directory : OpenDirectory) (name : String) : Met :=
  -- Links are looked at before hidden names are left out.
  let hidden := skipHidden && isHiddenName name
  match tree.get? (directory.location ++ [name]) with
  | none => .nothing
  | some (.file _) => if hidden then .nothing else .file
  | some .directory => if hidden then .nothing else .inner (directory.location ++ [name])
  | some (.link _) =>
    match tree.follow linkLimit directory.location [name] with
    | .error cause => .fault (.unreadable (joinPath directory.path name) cause)
    | .ok location =>
      match tree.get? location with
      | some .directory =>
        match openAt? (directory :: outer) location with
        | some ancestor => .fault (.circle (joinPath directory.path name) ancestor.path)
        | none => if hidden then .nothing else .inner location
      | some (.file _) => if hidden then .nothing else .file
      | _ => .nothing

namespace FileTree

variable {tree : FileTree} {skipHidden : Bool}

/-- What a walk finds at a name of a directory. -/
def found (tree : FileTree) (skipHidden : Bool) (outer : List OpenDirectory)
    (directory : OpenDirectory) (names : List String) (name : String) :
    List (Except WalkError Visit) :=
  -- Only a directory leads on.
  match tree.meet skipHidden outer directory name with
  | .nothing => []
  | .file => [.ok ⟨joinPath directory.path name, names ++ [name]⟩]
  | .inner location =>
    tree.walkBelow skipHidden (directory :: outer) ⟨location, joinPath directory.path name⟩
      (names ++ [name])
  | .fault cause => [.error cause]

/-- A walk finds what it finds at each name. -/
theorem walkBelow_eq (outer : List OpenDirectory) (directory : OpenDirectory)
    (names : List String) :
    tree.walkBelow skipHidden outer directory names =
      (tree.names directory.location).flatMap (tree.found skipHidden outer directory names) := by
  -- Case by case, what a name meets is what the walk does with it.
  rw [FileTree.walkBelow]
  congr 1
  funext name
  simp only [found, meet]
  split
  · rename_i absent
    rw [absent]
  · rename_i bytes plain
    rw [plain]
    split_ifs <;> rfl
  · rename_i plain
    rw [plain]
    split_ifs <;> rfl
  · rename_i target plain
    rw [plain]
    cases followed : tree.follow linkLimit directory.location [name] with
    | error cause => rfl
    | ok location =>
      simp only
      split
      · rename_i linked
        rw [linked]
        simp only
        split
        · rename_i ancestor opened
          rw [opened]
        · rename_i fresh
          rw [fresh]
          split_ifs <;> rfl
      · rename_i bytes linked
        rw [linked]
        split_ifs <;> rfl
      · rename_i linked other
        split <;> simp_all

/-- The place of what stands under a name in a directory, links followed. -/
def IsPlaceOf (tree : FileTree) (location : Location) (name : String) (place : Location) : Prop :=
  -- What is no link stands at the name itself.
  place = location ++ [name] ∨ tree.follow linkLimit location [name] = .ok place

/-- A file that is met stands at the place of its name. -/
theorem meet_file {outer : List OpenDirectory} {directory : OpenDirectory} {name : String}
    (met : tree.meet skipHidden outer directory name = .file) :
    ∃ place bytes, tree.IsPlaceOf directory.location name place ∧
      tree.get? place = some (.file bytes) := by
  -- A file is met where it stands, or at the end of a link.
  simp only [meet] at met
  split at met
  · simp at met
  · rename_i bytes here
    exact ⟨_, bytes, .inl rfl, here⟩
  · split at met <;> simp at met
  · split at met
    · simp at met
    · rename_i place followed
      split at met
      · split at met
        · simp at met
        · split at met <;> simp at met
      · rename_i bytes there
        exact ⟨place, bytes, .inr followed, there⟩
      · simp at met

/-- A directory that is met stands at the place of its name, and a link leads to no open one. -/
theorem meet_inner {outer : List OpenDirectory} {directory : OpenDirectory} {name : String}
    {place : Location} (met : tree.meet skipHidden outer directory name = .inner place) :
    tree.IsPlaceOf directory.location name place ∧ tree.get? place = some .directory ∧
      (place = directory.location ++ [name] ∨ openAt? (directory :: outer) place = none) := by
  -- A directory is met where it stands, or at the end of a link that leads to none already open.
  simp only [meet] at met
  split at met
  · simp at met
  · split at met <;> simp at met
  · rename_i here
    split at met
    · simp at met
    · obtain rfl := Met.inner.inj met
      exact ⟨.inl rfl, here, .inl rfl⟩
  · split at met
    · simp at met
    · rename_i location followed
      split at met
      · rename_i there
        split at met
        · simp at met
        · rename_i fresh
          split at met
          · simp at met
          · obtain rfl := Met.inner.inj met
            exact ⟨.inr followed, there, .inr fresh⟩
      · split at met <;> simp at met
      · simp at met

/-- What every directory passes on to those below it holds of every walk. -/
theorem walkBelow_induction (tree : FileTree) (skipHidden : Bool)
    {motive : List OpenDirectory → OpenDirectory → List String → Prop}
    (step : ∀ outer directory names,
      (∀ name place, tree.meet skipHidden outer directory name = .inner place →
        motive (directory :: outer) ⟨place, joinPath directory.path name⟩ (names ++ [name])) →
      motive outer directory names)
    (outer : List OpenDirectory) (directory : OpenDirectory) (names : List String) :
    motive outer directory names := by
  -- The two ways to go further down are the two ways to meet a directory.
  induction outer, directory, names using FileTree.walkBelow.induct tree with
  | case1 outer directory names plain linked =>
    refine step outer directory names fun name place met => ?_
    obtain ⟨-, there, rfl | fresh⟩ := meet_inner met
    · exact plain name there
    · exact linked name place there fresh

/-- The names in a directory are those that entries have behind its location. -/
theorem mem_names_iff {location : Location} {name : String} :
    name ∈ tree.names location ↔ location ++ [name] ∈ tree.entries.map Prod.fst := by
  simp only [names, List.mem_filterMap, List.mem_map]
  constructor
  · -- A name is the last piece of an entry whose other pieces are the location.
    rintro ⟨entry, listed, own⟩
    split at own
    · rename_i parent
      refine ⟨entry, listed, ?_⟩
      rw [← beq_iff_eq.mp parent]
      exact (List.dropLast_append_getLast? name own).symm
    · simp at own
  · -- An entry one below the location gives its last piece as a name.
    rintro ⟨entry, listed, own⟩
    exact ⟨entry, listed, by simp [own]⟩

/-- Something stands at the root and at every entry. -/
theorem exists_get?_of_mem {location : Location} (listed : location ∈ tree.entries.map Prod.fst) :
    ∃ entry, tree.get? location = some entry := by
  -- The root is found, and any other location by its entry.
  rw [get?]
  split
  · exact ⟨_, rfl⟩
  · have found : (tree.entries.lookup location).isSome := by
      rw [List.lookup_isSome_iff]
      simpa using listed
    exact Option.isSome_iff_exists.mp found

/-- A name in a directory leads to its place, unless it is too long. -/
theorem IsPlaceOf.reaches {location place : Location} {name : String} {entry : FileEntry}
    (isPlace : tree.IsPlaceOf location name place)
    (directory : tree.get? location = some .directory) (valid : IsFileName name)
    (there : tree.get? place = some entry) (plain : ∀ target, entry ≠ .link target) :
    Reaches (tree.follow linkLimit location [name]) place := by
  rcases isPlace with rfl | followed
  · -- An entry itself is reached in one move, unless its name is too long.
    rw [follow_cons]
    by_cases long : nameLimit < name.utf8ByteSize
    · refine .inr ⟨.nameTooLong, ?_, by simp⟩
      simp [move, directory, valid.nonempty, valid.not_here, valid.not_parent, long]
    · refine .inl ?_
      cases entry with
      | link target => exact absurd rfl (plain target)
      | _ => simp [move, directory, valid.nonempty, valid.not_here, valid.not_parent, long, there]
  · -- The end of a link is where following it ended.
    exact .inl followed

/-- The names in a directory of a well-formed tree are valid. -/
theorem WellFormed.isFileName (wellFormed : tree.WellFormed) {location : Location} {name : String}
    (listed : name ∈ tree.names location) : IsFileName name :=
  wellFormed.named _ (mem_names_iff.mp listed) name (by simp)

/-- The names in a directory of a well-formed tree are distinct. -/
theorem WellFormed.names_nodup (wellFormed : tree.WellFormed) (location : Location) :
    (tree.names location).Nodup := by
  have keys : tree.names location = (tree.entries.map Prod.fst).filterMap fun own =>
      if own.dropLast == location then own.getLast? else none := by
    rw [List.filterMap_map]
    rfl
  rw [keys]
  refine wellFormed.distinct.filterMap fun left right name first second => ?_
  -- Both locations are that of the directory with the name behind it.
  simp only [Option.mem_def] at first second
  split at first
  · rename_i parent
    split at second
    · rename_i other
      rw [← List.dropLast_append_getLast? name first, ← List.dropLast_append_getLast? name second,
        beq_iff_eq.mp parent, beq_iff_eq.mp other]
    · simp at second
  · simp at first

section

variable {outer : List OpenDirectory} {directory : OpenDirectory} {names : List String}

/-- What a walk finds at a name has a path that grows by the name, and the path leads to a file. -/
theorem found_visit (wellFormed : tree.WellFormed) {name : String} {visit : Visit}
    (here : tree.get? directory.location = some .directory) (nonempty : directory.path ≠ "")
    (leads : tree.LeadsTo directory.path directory.location)
    (member : name ∈ tree.names directory.location)
    (listed : .ok visit ∈ tree.found skipHidden outer directory names name) :
    (∃ tail, (∀ further ∈ name :: tail, IsFileName further) ∧
      visit.path = (name :: tail).foldl joinPath directory.path) ∧
      ∃ place bytes, tree.LeadsTo visit.path place ∧ tree.get? place = some (.file bytes) := by
  -- Along the walk, with the names that stand between the directory and the file.
  induction outer, directory, names using walkBelow_induction tree skipHidden generalizing name with
  | step outer directory names ih =>
    have valid := wellFormed.isFileName member
    simp only [found] at listed
    split at listed
    · simp at listed
    · rename_i met
      obtain rfl : visit = _ := by simpa using listed
      -- A file met right here is named by this one name.
      obtain ⟨place, bytes, isPlace, there⟩ := meet_file met
      refine ⟨⟨[], by simpa using valid, rfl⟩, place, bytes, ?_, there⟩
      exact leads.joinPath nonempty valid (isPlace.reaches here valid there (by simp))
    · rename_i place met
      -- A file from further down is named by this name and those of the inner visit.
      obtain ⟨isPlace, there, -⟩ := meet_inner met
      obtain ⟨filled, -⟩ := pathStem_joinPath nonempty valid
      have led := leads.joinPath nonempty valid (isPlace.reaches here valid there (by simp))
      rw [walkBelow_eq, List.mem_flatMap] at listed
      obtain ⟨further, deeper, below⟩ := listed
      obtain ⟨⟨tail, sound, path⟩, file⟩ := ih name place met there filled led deeper below
      exact ⟨⟨further :: tail, List.forall_mem_cons.mpr ⟨valid, sound⟩, path⟩, file⟩
    · simp at listed

/-- No two files that a walk meets have the same path. -/
theorem walkBelow_paths (wellFormed : tree.WellFormed)
    (here : tree.get? directory.location = some .directory) (nonempty : directory.path ≠ "")
    (leads : tree.LeadsTo directory.path directory.location) :
    (tree.walkBelow skipHidden outer directory names).Pairwise fun left right =>
      ∀ first second, left = .ok first → right = .ok second → first.path ≠ second.path := by
  induction outer, directory, names using walkBelow_induction tree skipHidden with
  | step outer directory names ih =>
    rw [walkBelow_eq, List.pairwise_flatMap]
    constructor
    · intro name member
      have valid := wellFormed.isFileName member
      simp only [found]
      split
      · exact .nil
      · exact List.pairwise_singleton _ _
      · rename_i place met
        obtain ⟨isPlace, there, -⟩ := meet_inner met
        exact ih name place met there (pathStem_joinPath nonempty valid).1
          (leads.joinPath nonempty valid (isPlace.reaches here valid there (by simp)))
      · exact List.pairwise_singleton _ _
    · -- The paths behind different names differ in the piece that is the name.
      refine (wellFormed.names_nodup directory.location).imp_of_mem ?_
      intro left right leftMember rightMember differ result leftFound other rightFound
      rintro first second rfl rfl same
      obtain ⟨⟨tail, valid, path⟩, -⟩ :=
        found_visit wellFormed here nonempty leads leftMember leftFound
      obtain ⟨⟨others, sound, other⟩, -⟩ :=
        found_visit wellFormed here nonempty leads rightMember rightFound
      have pieces := pathPieces_foldl_joinPath nonempty (by simp) valid
      rw [← path, same, other, pathPieces_foldl_joinPath nonempty (by simp) sound] at pieces
      exact differ (List.cons.inj (List.append_cancel_left pieces)).1.symm

end

end FileTree

end PhpOutline
