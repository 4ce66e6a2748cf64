import Mathlib
import PhpOutline.Proofs.FileTree.Walk

/-!
A tree with one more file.

Paths that led somewhere go on to lead there, since a new file only fills a place that was missing.
A walk meets everything it met before, and whatever else it meets is the new file.
-/

namespace PhpOutline

/-- A location at which a file may be created. -/
structure FileTree.IsVacant (tree : FileTree) (location : Location) : Prop where
  named : ∀ name ∈ location, IsFileName name
  absent : tree.get? location = none
  /-- What is missing on the way can be created too. -/
  reachable : ∀ count < location.length,
    tree.get? (location.take count) = none ∨ tree.get? (location.take count) = some .directory

/-- A tree that has grown by one file and the directories on the way to it. -/
structure FileTree.Grows (tree grown : FileTree) (location : Location) (bytes : ByteArray) :
    Prop where
  start : grown.workingDirectory = tree.workingDirectory
  old : ∀ place entry, tree.get? place = some entry → grown.get? place = some entry
  /-- What was missing before is missing, on the way to the file, or the file. -/
  new : ∀ place entry, tree.get? place = none → grown.get? place = some entry →
    entry = .directory ∨ place = location ∧ entry = .file bytes
  created : grown.get? location = some (.file bytes)

namespace FileTree

variable {tree grown : FileTree} {location : Location} {bytes : ByteArray}

/-- Something stands at a place of a tree exactly when the place is the root or an entry. -/
theorem get?_eq_none_iff {place : Location} :
    tree.get? place = none ↔ place ≠ [] ∧ place ∉ tree.entries.map Prod.fst := by
  constructor
  · intro missing
    -- The root is always there, and so is what the entries list.
    refine ⟨fun root => ?_, fun listed => ?_⟩
    · simp [get?, root] at missing
    · obtain ⟨entry, found⟩ := exists_get?_of_mem listed
      simp [missing] at found
  · -- What is found is the root or listed.
    rintro ⟨below, unlisted⟩
    cases found : tree.get? place with
    | none => rfl
    | some entry => simpa [below, unlisted] using mem_of_get? found

/-- The directories that have to be created on the way to a location. -/
def missingParents (tree : FileTree) (location : Location) : List Location :=
  -- The root is never missing.
  ((List.range location.length).map location.take).filter fun parent => (tree.get? parent).isNone

/-- A file at a vacant location comes behind all entries, after the directories on the way. -/
theorem entries_put (vacant : tree.IsVacant location) (entry : FileEntry) :
    (tree.put location entry).entries = tree.entries ++
      (tree.missingParents location).map (·, .directory) ++ [(location, entry)] := by
  simp [put, missingParents, vacant.absent]

/-- A parent is missing if it lies on the way and nothing stands there. -/
theorem mem_missingParents_iff {place : Location} :
    place ∈ tree.missingParents location ↔
      (∃ count < location.length, location.take count = place) ∧ tree.get? place = none := by
  simp [missingParents]

/-- A location is no parent of itself. -/
theorem not_mem_missingParents : location ∉ tree.missingParents location := by
  -- A missing parent is a shorter path.
  rw [mem_missingParents_iff]
  rintro ⟨⟨count, shorter, same⟩, -⟩
  have length := congrArg List.length same
  rw [List.length_take] at length
  omega

/-- What stands below the root is one of the entries. -/
theorem mem_entries_of_get? {place : Location} {entry : FileEntry} (below : place ≠ [])
    (found : tree.get? place = some entry) : (place, entry) ∈ tree.entries := by
  -- A lookup that finds something stands behind some front of the list.
  rw [get?, if_neg (by simpa using below), List.lookup_eq_some_iff] at found
  obtain ⟨front, back, split, -⟩ := found
  simp [split]

/-- Creating a file lets the tree grow by it. -/
theorem grows_put (vacant : tree.IsVacant location) (bytes : ByteArray) :
    tree.Grows (tree.put location (.file bytes)) location bytes where
  start := by
    simp [put, vacant.absent]
  old place entry found := by
    -- An old entry is found before the new ones are looked at.
    rw [get?] at found ⊢
    split at found
    · rename_i root
      rwa [if_pos root]
    · rename_i below
      rw [if_neg below, entries_put vacant, List.append_assoc, List.lookup_append, found]
      rfl
  new place entry missing found := by
    -- What is new is a missing parent, which is a directory, or the file itself.
    obtain ⟨below, unlisted⟩ := get?_eq_none_iff.mp missing
    have member := mem_entries_of_get? below found
    rw [entries_put vacant, List.mem_append, List.mem_append] at member
    rcases member with (known | parent) | file
    · exact absurd (List.mem_map.mpr ⟨_, known, rfl⟩) unlisted
    · obtain ⟨_, -, own⟩ := List.mem_map.mp parent
      exact .inl (Prod.mk.inj own).2.symm
    · obtain ⟨rfl, rfl⟩ := Prod.mk.inj (List.mem_singleton.mp file)
      exact .inr ⟨rfl, rfl⟩
  created := by
    -- Neither the old entries nor the parents hold the location, so the file's own entry is met.
    obtain ⟨below, unlisted⟩ := get?_eq_none_iff.mp vacant.absent
    have unknown : tree.entries.lookup location = none := by
      have missing := vacant.absent
      rwa [get?, if_neg (by simpa using below)] at missing
    have apart : ((tree.missingParents location).map (·, FileEntry.directory)).lookup location =
        none := by
      rw [List.lookup_eq_none_iff]
      intro parent listed
      obtain ⟨place, member, rfl⟩ := List.mem_map.mp listed
      simpa using fun same : location = place => not_mem_missingParents (same ▸ member)
    rw [get?, if_neg (by simpa using below), entries_put vacant, List.lookup_append,
      List.lookup_append, unknown, apart]
    simp [List.lookup]

/-- The directories on the way to a vacant location stand in the grown tree. -/
theorem get?_put_take (vacant : tree.IsVacant location) (bytes : ByteArray) {count : Nat}
    (shorter : count < location.length) :
    (tree.put location (.file bytes)).get? (location.take count) = some .directory := by
  -- A parent was there as a directory, or is put in as one.
  have grows := grows_put vacant bytes
  rcases vacant.reachable count shorter with missing | present
  · have member : location.take count ∈ tree.missingParents location :=
      mem_missingParents_iff.mpr ⟨⟨count, shorter, rfl⟩, missing⟩
    have listed : location.take count ∈
        (tree.put location (.file bytes)).entries.map Prod.fst := by
      rw [entries_put vacant, List.map_append, List.map_append, List.map_map]
      simp [Function.comp_def, member]
    obtain ⟨entry, found⟩ := exists_get?_of_mem listed
    rcases grows.new _ entry missing found with rfl | ⟨same, -⟩
    · exact found
    · exact absurd (same ▸ member) not_mem_missingParents
  · exact grows.old _ _ present

/-- No directory on the way to a location is missing twice. -/
theorem missingParents_nodup : (tree.missingParents location).Nodup := by
  refine List.Nodup.filter _ (List.Nodup.map_on ?_ List.nodup_range)
  -- The ways to a location differ in length.
  intro left within right inside same
  have lengths := congrArg List.length same
  rw [List.mem_range] at within inside
  rw [List.length_take, List.length_take] at lengths
  omega

/-- A well-formed tree stays so when a file is created. -/
theorem WellFormed.put (wellFormed : tree.WellFormed) (vacant : tree.IsVacant location)
    (bytes : ByteArray) : (tree.put location (.file bytes)).WellFormed := by
  -- The keys are the old ones, the missing parents and the new location.
  have keys : (tree.put location (.file bytes)).entries.map Prod.fst =
      tree.entries.map Prod.fst ++ tree.missingParents location ++ [location] := by
    rw [entries_put vacant]
    simp [Function.comp_def]
  obtain ⟨below, unlisted⟩ := get?_eq_none_iff.mp vacant.absent
  constructor
  · -- Distinct: the parents were missing and each is named once.
    have apart : (tree.entries.map Prod.fst).Disjoint (tree.missingParents location) := by
      intro place known parent
      exact (get?_eq_none_iff.mp (mem_missingParents_iff.mp parent).2).2 known
    rw [keys]
    refine List.Nodup.append (wellFormed.distinct.append missingParents_nodup apart)
      (List.nodup_singleton _) ?_
    rw [List.disjoint_singleton, List.mem_append]
    exact not_or.mpr ⟨unlisted, not_mem_missingParents⟩
  · -- Named: the names of a parent are among those of the location.
    intro place listed name member
    rw [keys, List.mem_append, List.mem_append, List.mem_singleton] at listed
    rcases listed with (known | parent) | rfl
    · exact wellFormed.named place known name member
    · obtain ⟨⟨count, -, rfl⟩, -⟩ := mem_missingParents_iff.mp parent
      exact vacant.named name (List.mem_of_mem_take member)
    · exact vacant.named name member
  · -- Inside: what stands above a parent or the location is one of the parents again.
    intro place listed
    rw [keys, List.mem_append, List.mem_append, List.mem_singleton] at listed
    rcases listed with (known | parent) | rfl
    · obtain ⟨inner, directory⟩ := wellFormed.inside place known
      exact ⟨inner, (grows_put vacant bytes).old _ _ directory⟩
    · obtain ⟨⟨count, shorter, rfl⟩, missing⟩ := mem_missingParents_iff.mp parent
      refine ⟨(get?_eq_none_iff.mp missing).1, ?_⟩
      rw [List.dropLast_take (by omega)]
      exact get?_put_take vacant bytes (by omega)
    · refine ⟨below, ?_⟩
      rw [List.dropLast_eq_take]
      exact get?_put_take vacant bytes (by have := List.length_pos_iff.mpr below; omega)

namespace Grows

/-- What a piece of a path leads to stays, unless something was missing. -/
theorem move_eq (grows : tree.Grows grown location bytes) {links : Nat} {place : Location}
    {piece : String} {rest : List String}
    (complete : tree.follow links place (piece :: rest) ≠ .error .notFound) :
    grown.move place piece = tree.move place piece := by
  -- Only a missing entry can change under the move, and then nothing is found in the first place.
  have present : tree.move place piece ≠ .stop .notFound := by
    intro stopped
    simp [follow_cons, stopped] at complete
  unfold move at present ⊢
  cases here : tree.get? place with
  | none => simp [here] at present
  | some entry =>
    rw [grows.old place entry here]
    cases there : tree.get? (place ++ [piece]) with
    | none => grind
    | some inner => rw [grows.old _ inner there]

/-- Pieces of a path lead to the same place, unless something was missing. -/
theorem follow_eq (grows : tree.Grows grown location bytes) {links : Nat} {start : Location}
    {pieces : List String} (complete : tree.follow links start pieces ≠ .error .notFound) :
    grown.follow links start pieces = tree.follow links start pieces := by
  -- Along the pieces: each move is the same in the grown tree, as none of them finds nothing.
  induction links, start, pieces using follow_induction tree with
  | done links start => simp
  | stop links start piece rest cause moved =>
    simp only [follow_cons, grows.move_eq complete, moved]
  | go links start piece rest next moved ih =>
    have same := grows.move_eq complete
    simp only [follow_cons, same, moved] at complete ⊢
    exact ih complete
  | spent start piece rest begin target moved =>
    simp only [follow_cons, grows.move_eq complete, moved]
  | jump left start piece rest begin target moved ih =>
    have same := grows.move_eq complete
    simp only [follow_cons, same, moved] at complete ⊢
    split
    · rfl
    · rename_i named
      rw [if_neg named] at complete
      exact ih complete

/-- A path leads to the same place, unless something was missing. -/
theorem locate_eq (grows : tree.Grows grown location bytes) {path : String}
    (complete : tree.locate path ≠ .error .notFound) : grown.locate path = tree.locate path := by
  -- The checks made on the text of a path do not look at the tree.
  unfold locate at complete ⊢
  rw [grows.start]
  split
  · rfl
  · rename_i clean
    rw [if_neg clean] at complete
    split
    · rfl
    · rename_i short
      rw [if_neg short] at complete
      split
      · rfl
      · rename_i named
        rw [if_neg named] at complete
        exact grows.follow_eq complete

/-- A path leads to the same place. -/
theorem leadsTo (grows : tree.Grows grown location bytes) {path : String} {place : Location}
    (leads : tree.LeadsTo path place) :
    grown.locate path = tree.locate path ∧ grown.LeadsTo path place := by
  -- A path that leads somewhere does not end at a missing file.
  have same : grown.locate path = tree.locate path := by
    apply grows.locate_eq
    rcases leads with led | ⟨cause, failed, present⟩
    · simp [led]
    · simpa [failed] using present
  exact ⟨same, by rwa [LeadsTo, same]⟩

/-- A file that a path led to is read as before. -/
theorem readText_eq (grows : tree.Grows grown location bytes) {path : String} {place : Location}
    {entry : FileEntry} (leads : tree.LeadsTo path place) (there : tree.get? place = some entry) :
    grown.readText path = tree.readText path := by
  -- The same place is located, and its entry is an old one.
  obtain ⟨same, -⟩ := grows.leadsTo leads
  rw [readText, readText, same]
  rcases leads with led | ⟨cause, failed, -⟩
  · simp only [led, bind, Except.bind, there, grows.old place entry there]
  · simp only [failed, bind, Except.bind]

/-- Only text can be read from the new file. -/
theorem readText_new (grows : tree.Grows grown location bytes)
    (unreadable : String.fromUTF8? bytes = none) {path : String}
    (leads : grown.LeadsTo path location) : ∃ cause, grown.readText path = .error cause := by
  -- The path ends at the new file, or fails before it.
  rw [readText]
  rcases leads with led | ⟨cause, failed, -⟩
  · exact ⟨.notText, by simp only [led, bind, Except.bind, grows.created, unreadable]⟩
  · exact ⟨cause, by simp only [failed, bind, Except.bind]⟩

end Grows

/-- What a path leads to is a file or a directory. -/
def Stands (tree : FileTree) (place : Location) : Prop :=
  -- A link is followed further.
  ∃ entry, tree.get? place = some entry ∧ ∀ target, entry ≠ .link target

/-- A directory stands in a directory. -/
theorem WellFormed.stands_dropLast (wellFormed : tree.WellFormed) {place : Location}
    {entry : FileEntry} (here : tree.get? place = some entry) : tree.Stands place.dropLast := by
  -- What stands above an entry is a directory, and the root is its own.
  rcases List.mem_cons.mp (mem_of_get? here) with rfl | listed
  · exact ⟨.directory, rfl, by simp⟩
  · exact ⟨.directory, (wellFormed.inside place listed).2, by simp⟩

/-- A move leads to something that stands. -/
theorem WellFormed.stands_of_move (wellFormed : tree.WellFormed) {place next : Location}
    {piece : String} (moved : tree.move place piece = .go next) : tree.Stands next := by
  -- A move goes on to the same directory, to the one above it or to an entry that is no link.
  unfold move at moved
  split at moved
  · simp at moved
  · rename_i here
    split at moved
    · obtain rfl := Move.go.inj moved
      exact ⟨_, here, by simp⟩
    · split at moved
      · obtain rfl := Move.go.inj moved
        exact wellFormed.stands_dropLast here
      · split at moved
        · simp at moved
        · split at moved
          · simp at moved
          · simp at moved
          · rename_i entry plain there
            obtain rfl := Move.go.inj moved
            exact ⟨entry, there, plain⟩
  · simp at moved

/-- A path leads to something that stands, if it has a piece or starts from something that does. -/
theorem WellFormed.stands_of_follow (wellFormed : tree.WellFormed) {links : Nat}
    {start place : Location} {pieces : List String} (begins : pieces = [] → tree.Stands start)
    (leads : tree.follow links start pieces = .ok place) : tree.Stands place := by
  -- Along the pieces: every move leads to a place that stands, and a target is never empty.
  induction links, start, pieces using follow_induction tree with
  | done links start =>
    obtain rfl : start = place := by simpa using leads
    exact begins rfl
  | stop links start piece rest cause moved => simp [follow_cons, moved] at leads
  | go links start piece rest next moved ih =>
    simp only [follow_cons, moved] at leads
    exact ih (fun _ => wellFormed.stands_of_move moved) leads
  | spent start piece rest begin target moved => simp [follow_cons, moved] at leads
  | jump left start piece rest begin target moved ih =>
    simp only [follow_cons, moved] at leads
    split at leads
    · simp at leads
    · refine ih (fun none => ?_) leads
      have some : pathPieces target ≠ [] := by simp [pathPieces, splitAt_ne_nil]
      exact absurd (List.append_eq_nil_iff.mp none).1 some

/-- The names in a directory are those under which something stands. -/
theorem mem_names_iff_get? {place : Location} {name : String} :
    name ∈ tree.names place ↔ ∃ entry, tree.get? (place ++ [name]) = some entry := by
  -- What is listed is found, and what is found below a location is listed.
  rw [mem_names_iff]
  constructor
  · exact exists_get?_of_mem
  · rintro ⟨entry, here⟩
    simpa using mem_of_get? here

/-- Nothing stands below a place at which nothing stands. -/
theorem WellFormed.get?_below (wellFormed : tree.WellFormed) {place : Location}
    (missing : tree.get? place = none) (name : String) : tree.get? (place ++ [name]) = none := by
  -- An entry would stand inside a directory, which is missing.
  cases here : tree.get? (place ++ [name]) with
  | none => rfl
  | some entry =>
    have inside := (wellFormed.inside _ (mem_names_iff.mp (mem_names_iff_get?.mpr ⟨entry, here⟩))).2
    rw [List.dropLast_concat, missing] at inside
    simp at inside

/-- Results that keep those from before, and besides them only lead to a new file. -/
def Gains (grown : FileTree) (location : Location) (before after : List (Except WalkError Visit)) :
    Prop :=
  -- The new file may be met by several paths.
  (∀ result ∈ before, result ∈ after) ∧
    ∀ result ∈ after, result ∈ before ∨
      ∃ visit, result = .ok visit ∧ grown.LeadsTo visit.path location

/-- The same results gain nothing. -/
theorem Gains.refl {results : List (Except WalkError Visit)} :
    grown.Gains location results results :=
  ⟨fun _ => id, fun _ => .inl⟩

namespace Grows

variable {skipHidden : Bool} {outer : List OpenDirectory} {directory : OpenDirectory}
  {names : List String} {name : String}

/-- A walk does the same about a name as before, unless it broke off there. -/
theorem meet_eq (grows : tree.Grows grown location bytes) (wellFormed : tree.WellFormed)
    (listed : name ∈ tree.names directory.location)
    (sound : ∀ cause, tree.meet skipHidden outer directory name ≠ .fault cause) :
    grown.meet skipHidden outer directory name = tree.meet skipHidden outer directory name := by
  -- The entry is an old one, and a link leads to the same place, which stood there before.
  obtain ⟨entry, here⟩ := mem_names_iff_get?.mp listed
  unfold meet at sound ⊢
  rw [grows.old _ entry here]
  rw [here] at sound ⊢
  cases entry with
  | file bytes => rfl
  | directory => rfl
  | link target =>
    cases followed : tree.follow linkLimit directory.location [name] with
    | error cause => simp [followed] at sound
    | ok place =>
      obtain ⟨inner, there, -⟩ := wellFormed.stands_of_follow (by simp) followed
      have same : grown.follow linkLimit directory.location [name] = .ok place := by
        rw [grows.follow_eq (by simp [followed]), followed]
      simp only [same, there, grows.old _ inner there]

/-- Whatever a walk finds at a name that is new is the new file. -/
theorem found_new (grows : tree.Grows grown location bytes) (wellFormed : tree.WellFormed)
    (further : grown.WellFormed) (here : grown.get? directory.location = some .directory)
    (nonempty : directory.path ≠ "") (leads : grown.LeadsTo directory.path directory.location)
    (missing : tree.get? (directory.location ++ [name]) = none)
    (listed : name ∈ grown.names directory.location) {result : Except WalkError Visit}
    (found : result ∈ grown.found skipHidden outer directory names name) :
    ∃ visit, result = .ok visit ∧ grown.LeadsTo visit.path location := by
  induction outer, directory, names using walkBelow_induction grown skipHidden
    generalizing name with
  | step outer directory names ih =>
    have valid := further.isFileName listed
    obtain ⟨entry, there⟩ := mem_names_iff_get?.mp listed
    have onward := fun (plain : ∀ target, entry ≠ .link target) =>
      leads.joinPath nonempty valid (IsPlaceOf.reaches (.inl rfl) here valid there plain)
    by_cases hidden : (skipHidden && isHiddenName name) = true
    · -- What is hidden is left out, be it a directory or the file.
      rcases grows.new _ entry missing there with rfl | ⟨-, rfl⟩ <;>
        simp [FileTree.found, meet, there, hidden] at found
    · rcases grows.new _ entry missing there with rfl | ⟨same, rfl⟩
      · -- A new directory leads on to the new file only, for nothing stood below it.
        have met : grown.meet skipHidden outer directory name =
            .inner (directory.location ++ [name]) := by
          simp [meet, there, hidden]
        simp only [FileTree.found, met] at found
        rw [walkBelow_eq, List.mem_flatMap] at found
        obtain ⟨deeper, member, below⟩ := found
        exact ih name _ met there (pathStem_joinPath nonempty valid).1 (onward (by simp))
          (wellFormed.get?_below missing deeper) member below
      · have met : grown.meet skipHidden outer directory name = .file := by
          simp [meet, there, hidden]
        simp only [FileTree.found, met, List.mem_singleton] at found
        exact ⟨_, found, same ▸ onward (by simp)⟩

/-- What is found at a name from before only gains the new file, if what lies below it does. -/
theorem found_grown (grows : tree.Grows grown location bytes) (wellFormed : tree.WellFormed)
    (listed : name ∈ tree.names directory.location)
    (sound : ∀ result ∈ tree.found skipHidden outer directory names name,
      ∃ visit, result = .ok visit)
    (below : ∀ place, tree.meet skipHidden outer directory name = .inner place →
      (∀ result ∈ tree.walkBelow skipHidden (directory :: outer)
        ⟨place, joinPath directory.path name⟩ (names ++ [name]), ∃ visit, result = .ok visit) →
      grown.Gains location
        (tree.walkBelow skipHidden (directory :: outer) ⟨place, joinPath directory.path name⟩
          (names ++ [name]))
        (grown.walkBelow skipHidden (directory :: outer) ⟨place, joinPath directory.path name⟩
          (names ++ [name]))) :
    grown.Gains location (tree.found skipHidden outer directory names name)
      (grown.found skipHidden outer directory names name) := by
  -- The name meets what it met before, so only what lies below it can gain.
  have same : grown.meet skipHidden outer directory name =
      tree.meet skipHidden outer directory name := by
    refine grows.meet_eq wellFormed listed fun cause met => ?_
    simp [FileTree.found, met] at sound
  simp only [FileTree.found, same] at sound ⊢
  cases met : tree.meet skipHidden outer directory name with
  | nothing => exact .refl
  | file => exact .refl
  | fault cause => simp [met] at sound
  | inner place =>
    simp only [met] at sound ⊢
    exact below place met sound

/-- A walk that did not break off only gains the new file. -/
theorem walkBelow_grown (grows : tree.Grows grown location bytes) (wellFormed : tree.WellFormed)
    (further : grown.WellFormed) (here : tree.get? directory.location = some .directory)
    (nonempty : directory.path ≠ "") (leads : tree.LeadsTo directory.path directory.location)
    (sound : ∀ result ∈ tree.walkBelow skipHidden outer directory names,
      ∃ visit, result = .ok visit) :
    grown.Gains location (tree.walkBelow skipHidden outer directory names)
      (grown.walkBelow skipHidden outer directory names) := by
  -- Along the walk: a name known before gains what lies below it, a new one leads to the file.
  induction outer, directory, names using walkBelow_induction tree skipHidden with
  | step outer directory names ih =>
    simp only [walkBelow_eq, List.mem_flatMap, forall_exists_index, and_imp] at sound
    have known : ∀ name ∈ tree.names directory.location,
        grown.Gains location (tree.found skipHidden outer directory names name)
          (grown.found skipHidden outer directory names name) := by
      intro name listed
      have valid := wellFormed.isFileName listed
      refine grows.found_grown wellFormed listed (fun result => sound result name listed) ?_
      intro place met fine
      obtain ⟨isPlace, there, -⟩ := meet_inner met
      exact ih name place met there (pathStem_joinPath nonempty valid).1
        (leads.joinPath nonempty valid (isPlace.reaches here valid there (by simp))) fine
    simp only [Gains, walkBelow_eq, List.mem_flatMap]
    constructor
    · -- Nothing is lost, since no name is.
      rintro result ⟨name, listed, found⟩
      obtain ⟨entry, there⟩ := mem_names_iff_get?.mp listed
      exact ⟨name, mem_names_iff_get?.mpr ⟨entry, grows.old _ entry there⟩,
        (known name listed).1 result found⟩
    · -- What is gained comes from below a known name or from a new one.
      rintro result ⟨name, listed, found⟩
      by_cases old : name ∈ tree.names directory.location
      · rcases (known name old).2 result found with before | new
        · exact .inl ⟨name, old, before⟩
        · exact .inr new
      · have missing : tree.get? (directory.location ++ [name]) = none := by
          by_contra present
          obtain ⟨entry, there⟩ := Option.ne_none_iff_exists'.mp present
          exact old (mem_names_iff_get?.mpr ⟨entry, there⟩)
        exact .inr (grows.found_new wellFormed further (grows.old _ _ here) nonempty
          (grows.leadsTo leads).2 missing listed found)

end Grows

end FileTree

end PhpOutline
