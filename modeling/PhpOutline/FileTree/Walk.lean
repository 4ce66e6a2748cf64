import PhpOutline.FileTree.Basic

/-! Walks through everything below a directory, links followed. -/

namespace PhpOutline

/-- Why a walk breaks off. -/
inductive WalkError where
  /-- The entry that a path names cannot be looked at. -/
  | unreadable (path : String) (cause : FileError)
  /-- A link leads back to a directory that it stands below. -/
  | circle (path ancestor : String)
deriving DecidableEq, Repr

/-- The message of a cause. -/
def WalkError.message : WalkError → String
  -- A cause that has a cause of its own ends with that one.
  | .unreadable path cause =>
    "IO error for operation on " ++ path ++ ": " ++ cause.message ++ ": " ++ cause.message
  | .circle path ancestor =>
    "File system loop found: " ++ path ++ " points to an ancestor " ++ ancestor

/-- A file that a walk meets. -/
structure Visit where
  path : String
  /-- The names on the way from the start of the walk. -/
  names : List String
deriving DecidableEq, Repr

/-- A directory that a walk is in. -/
structure OpenDirectory where
  location : Location
  path : String
deriving DecidableEq, Repr

/-- The open directory at a location. -/
def openAt? (opened : List OpenDirectory) (location : Location) : Option OpenDirectory :=
  -- Two directories are the same when they stand at the same location.
  opened.find? fun directory => directory.location == location

/-- Whether a name is hidden. -/
def isHiddenName (name : String) : Bool :=
  -- Hidden names start with a dot.
  name.startsWith "."

/-- The number of entries that are no open directories, the root among them. -/
def FileTree.unopened (tree : FileTree) (opened : List OpenDirectory) : Nat :=
  -- A walk that enters a directory for the first time lowers this number.
  ([] :: tree.entries.map Prod.fst).countP fun location => (openAt? opened location).isNone

/-- The number of names on the longest way through a tree. -/
def FileTree.height (tree : FileTree) : Nat :=
  -- Only entries count, for the root has no name.
  (tree.entries.map fun entry => entry.1.length).foldr max 0

/-- What stands at a location is the root or one of the entries. -/
theorem mem_of_get? {tree : FileTree} {location : Location} {entry : FileEntry}
    (found : tree.get? location = some entry) :
    location ∈ [] :: tree.entries.map Prod.fst := by
  -- A location that is not empty is looked up among the entries.
  unfold FileTree.get? at found
  split at found
  · simp_all
  · have listed : (tree.entries.lookup location).isSome := by simp [found]
    rw [List.lookup_isSome_iff] at listed
    simp_all

/-- No location at which something stands is longer than the tree is high. -/
theorem length_le_height {tree : FileTree} {location : Location} {entry : FileEntry}
    (found : tree.get? location = some entry) : location.length ≤ tree.height := by
  -- The height is the greatest of all lengths.
  have listed := mem_of_get? found
  unfold FileTree.height
  generalize tree.entries = entries at listed
  induction entries with
  | nil => simp_all
  | cons first rest step =>
    simp only [List.map_cons, List.mem_cons, List.foldr_cons] at listed step ⊢
    grind

/-- A directory that is already open stays so when one more is opened. -/
theorem openAt?_cons_isNone {opened : List OpenDirectory} {directory : OpenDirectory}
    {location : Location} (closed : (openAt? (directory :: opened) location).isNone) :
    (openAt? opened location).isNone := by
  -- The search goes through the others after the new one.
  simp only [openAt?, List.find?_cons] at closed ⊢
  split at closed <;> simp_all

/-- Opening a directory never raises the number of those that are not open. -/
theorem unopened_cons_le (tree : FileTree) (opened : List OpenDirectory)
    (directory : OpenDirectory) :
    tree.unopened (directory :: opened) ≤ tree.unopened opened :=
  -- Whatever is not open afterwards was not open before.
  List.countP_mono_left fun _ _ closed => openAt?_cons_isNone closed

/-- Opening a directory for the first time lowers the number of those that are not open. -/
theorem unopened_cons_lt {tree : FileTree} {opened : List OpenDirectory}
    {directory : OpenDirectory} {entry : FileEntry}
    (found : tree.get? directory.location = some entry)
    (closed : openAt? opened directory.location = none) :
    tree.unopened (directory :: opened) < tree.unopened opened := by
  -- Its own location was counted before and is not counted any more.
  obtain ⟨before, after, split⟩ := List.append_of_mem (mem_of_get? found)
  have mono (locations : List Location) :
      locations.countP (fun location => (openAt? (directory :: opened) location).isNone)
        ≤ locations.countP (fun location => (openAt? opened location).isNone) :=
    List.countP_mono_left fun _ _ still => openAt?_cons_isNone still
  have now : openAt? (directory :: opened) directory.location = some directory := by
    simp [openAt?]
  have first := mono before
  have second := mono after
  simp only [FileTree.unopened, split, List.countP_append, List.countP_cons, now, closed,
    Option.isNone_some, Option.isNone_none]
  simp only [Bool.false_eq_true, if_true, if_false]
  omega

set_option linter.unusedVariables false in
/--
The files below a directory, and what keeps the walk from others.

A link is followed from the directory that it stands in, and a path may grow to any length.
So the walk is assumed to stay within the limits of a single path: none of its paths leads through
more than `linkLimit` links in all, and none has `pathLimit` bytes or more.
-/
def FileTree.walkBelow (tree : FileTree) (skipHidden : Bool) (outer : List OpenDirectory)
    (directory : OpenDirectory) (names : List String) : List (Except WalkError Visit) :=
  -- Links are looked at before hidden names are left out.
  (tree.names directory.location).flatMap fun name =>
    let path := joinPath directory.path name
    let inside := names ++ [name]
    let hidden := skipHidden && isHiddenName name
    match plain : tree.get? (directory.location ++ [name]) with
    | none => []
    | some (.file _) => if hidden then [] else [.ok ⟨path, inside⟩]
    | some .directory =>
      if hidden then []
      else
        tree.walkBelow skipHidden (directory :: outer) ⟨directory.location ++ [name], path⟩ inside
    | some (.link _) =>
      match tree.follow linkLimit directory.location [name] with
      | .error cause => [.error (.unreadable path cause)]
      | .ok location =>
        match linked : tree.get? location with
        | some .directory =>
          match fresh : openAt? (directory :: outer) location with
          | some ancestor => [.error (.circle path ancestor.path)]
          | none =>
            if hidden then []
            else tree.walkBelow skipHidden (directory :: outer) ⟨location, path⟩ inside
        | some (.file _) => if hidden then [] else [.ok ⟨path, inside⟩]
        | _ => []
termination_by (tree.unopened (directory :: outer), tree.height - directory.location.length)
decreasing_by
  · have deep := length_le_height plain
    simp only [List.length_append, List.length_cons, List.length_nil] at deep
    have fewer := unopened_cons_le tree (directory :: outer)
      ⟨directory.location ++ [name], joinPath directory.path name⟩
    refine Prod.Lex.right' _ fewer ?_
    simp only [List.length_append, List.length_cons, List.length_nil]
    omega
  · exact Prod.Lex.left _ _ (unopened_cons_lt linked fresh)

/-- The files below the directory that a path leads to, and what keeps the walk from others. -/
def FileTree.walk (tree : FileTree) (skipHidden : Bool) (path : String) :
    List (Except WalkError Visit) :=
  -- The start itself is never hidden.
  match tree.locate path with
  | .error cause => [.error (.unreadable path cause)]
  | .ok location => tree.walkBelow skipHidden [] ⟨location, path⟩ []

end PhpOutline
