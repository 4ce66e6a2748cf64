import Mathlib
import PhpOutline.Folder.ClassIndex
import PhpOutline.Proofs.Folder.Collect
import PhpOutline.Proofs.Text.ByteOrder

/-!
A class index keeps the first declaration of every class.

Each class that some file declares has one entry, which holds the first of these files by path.
So a file that no entry leads to can be removed without a change to the index.
-/

namespace PhpOutline

namespace ClassIndex

/-- An index whose names increase. -/
def Ordered (index : ClassIndex) : Prop :=
  -- No name has two entries.
  index.entries.Pairwise fun left right => left.1 < right.1

/-- A name that has no entry is put in front of the first greater one. -/
theorem lookup_insertEntry {name path : String} {entries : List (String × String)}
    (absent : entries.lookup name = none) (other : String) :
    (insertEntry name path entries).lookup other =
      if other == name then some path else entries.lookup other := by
  -- Over the entries: the new one is met where it stands, and none before it has its name.
  induction entries with
  | nil => cases asked : other == name <;> simp [insertEntry, List.lookup_cons, asked]
  | cons entry rest ih =>
    rw [List.lookup_cons] at absent
    rw [insertEntry]
    split
    · cases asked : other == name <;> simp [List.lookup_cons, asked]
    · cases own : name == entry.1 with
      | true => simp [own] at absent
      | false =>
        simp only [own] at absent
        rw [List.lookup_cons, ih absent, List.lookup_cons]
        cases asked : other == entry.1 with
        | false => rfl
        | true =>
          obtain rfl := beq_iff_eq.mp asked
          have apart : (entry.1 == name) = false := by rwa [BEq.comm]
          simp [apart]

/-- The entries are those from before and the new one. -/
theorem mem_insertEntry {name path : String} {entries : List (String × String)}
    {entry : String × String} :
    entry ∈ insertEntry name path entries ↔ entry = (name, path) ∨ entry ∈ entries := by
  -- Over the entries, up to the place where the new one goes in.
  induction entries with
  | nil => simp [insertEntry]
  | cons first rest ih =>
    rw [insertEntry]
    split
    · simp
    · simp only [List.mem_cons, ih]
      tauto

/-- A new name finds its place among increasing ones. -/
theorem insertEntry_ordered {name path : String} {entries : List (String × String)}
    (absent : entries.lookup name = none)
    (ordered : entries.Pairwise fun left right => left.1 < right.1) :
    (insertEntry name path entries).Pairwise fun left right => left.1 < right.1 := by
  -- Over the entries: the new one goes in front of the first that is above it.
  induction entries with
  | nil => exact List.pairwise_singleton _ _
  | cons entry rest ih =>
    obtain ⟨below, later⟩ := List.pairwise_cons.mp ordered
    rw [List.lookup_cons] at absent
    rw [insertEntry]
    split
    · rename_i lower
      refine List.pairwise_cons.mpr ⟨fun other listed => ?_, ordered⟩
      rcases List.mem_cons.mp listed with rfl | further
      · exact lower
      · exact lt_trans lower (below other further)
    · -- Behind a lower entry the rest takes it, and all of that is above the entry.
      rename_i higher
      cases own : name == entry.1 with
      | true => simp [own] at absent
      | false =>
        simp only [own] at absent
        refine List.pairwise_cons.mpr ⟨fun other listed => ?_, ih absent later⟩
        rcases mem_insertEntry.mp listed with rfl | further
        · exact lt_of_le_of_ne (not_lt.mp higher) (Ne.symm (by simpa using own))
        · exact below other further

variable {index : ClassIndex}

/-- One more declaration counts unless its name has an entry. -/
theorem lookup_insert (index : ClassIndex) (name path other : String) :
    (index.insert name path).value.entries.lookup other =
      (index.entries.lookup other).or (if other == name then some path else none) := by
  -- A name already known keeps its path, so the new path only counts where there was none.
  rw [insert]
  cases known : index.entries.lookup name with
  | none =>
    rw [lookup_insertEntry known]
    cases asked : other == name with
    | false => simp
    | true => simp [beq_iff_eq.mp asked, known]
  | some kept =>
    cases asked : other == name with
    | false => simp
    | true => simp [beq_iff_eq.mp asked, known]

/-- One more declaration leaves the names in order. -/
theorem Ordered.insert (ordered : index.Ordered) (name path : String) :
    (index.insert name path).value.Ordered := by
  -- Only a name that is not known is put in.
  rw [ClassIndex.insert]
  cases known : index.entries.lookup name with
  | none => exact insertEntry_ordered known ordered
  | some kept => exact ordered

/-- Of several declarations of a name that has no entry the first one counts. -/
theorem lookup_insertAll (index : ClassIndex) (declarations : List (String × String))
    (name : String) :
    (index.insertAll declarations).value.entries.lookup name =
      (index.entries.lookup name).or (declarations.lookup name) := by
  -- Over the declarations: each counts only where the index so far knows nothing.
  induction declarations generalizing index with
  | nil => simp [insertAll]
  | cons declaration rest ih =>
    rw [insertAll, ih, lookup_insert, Option.or_assoc, List.lookup_cons]
    cases name == declaration.1 <;> rfl

/-- Declarations leave the names in order. -/
theorem Ordered.insertAll (ordered : index.Ordered) (declarations : List (String × String)) :
    (index.insertAll declarations).value.Ordered := by
  -- Over the declarations, as each insertion keeps the order.
  induction declarations generalizing index with
  | nil => exact ordered
  | cons declaration rest ih => exact ih (ordered.insert declaration.1 declaration.2)

/-- The entry of a name is the one that is found. -/
theorem Ordered.mem_entries_iff (ordered : index.Ordered) {name path : String} :
    (name, path) ∈ index.entries ↔ index.entries.lookup name = some path := by
  rw [List.lookup_eq_some_iff]
  constructor
  · -- In a list with increasing names no earlier entry has this one.
    intro listed
    obtain ⟨front, back, split⟩ := List.append_of_mem listed
    refine ⟨front, back, split, fun entry earlier => ?_⟩
    have below := ordered
    rw [Ordered, split, List.pairwise_append] at below
    simpa using (below.2.2 entry earlier (name, path) (by simp)).ne'
  · rintro ⟨front, back, split, -⟩
    simp [split]

/-- Ordered indices with the same entries are the same. -/
theorem Ordered.ext {other : ClassIndex} (ordered : index.Ordered) (sorted : other.Ordered)
    (same : ∀ entry, entry ∈ index.entries ↔ entry ∈ other.entries) : index = other := by
  -- Lists in strict order are equal once they have the same members.
  have irrefl : Std.Irrefl fun left right : String × String => left.1 < right.1 :=
    ⟨fun entry => lt_irrefl entry.1⟩
  have antisymm : Std.Antisymm fun left right : String × String => left.1 < right.1 :=
    ⟨fun _ _ below above => absurd below above.asymm⟩
  have entries : index.entries = other.entries := ordered.eq_of_mem_iff sorted same
  cases index
  cases other
  exact congrArg ClassIndex.mk entries

end ClassIndex

/-- Declarations in one file all lead to it. -/
theorem lookup_map_pair (names : List String) (path name : String) :
    (names.map fun declared => (declared, path)).lookup name =
      if name ∈ names then some path else none := by
  -- Over the names: all of them are paired with one path.
  induction names with
  | nil => simp
  | cons first rest ih =>
    rw [List.map_cons, List.lookup_cons, ih]
    by_cases same : name = first
    · simp [same]
    · have apart : (name == first) = false := by simpa using same
      simp [apart, same]

namespace FileTree

variable {tree : FileTree} {settings : Settings} {root : String} {files : List String}
  {path name : String}

/-- Whether the file that a path leads to declares a class with a full name. -/
def Declares (tree : FileTree) (settings : Settings) (path name : String) : Prop :=
  -- A file that cannot be read declares nothing.
  ∃ source, tree.readText path = .ok source ∧
    name ∈ classNames true settings.classFilter (tokenize source)

/-- The full names of the classes that the file at a path declares. -/
def declaredNames (tree : FileTree) (settings : Settings) (path : String) : List String :=
  -- A name may be declared more than once.
  match tree.readTokens path with
  | .ok tokens => classNames true settings.classFilter tokens
  | .error _ => []

/-- The names of a file are those that it declares. -/
theorem mem_declaredNames : name ∈ tree.declaredNames settings path ↔
    tree.Declares settings path name := by
  -- A file that is not read declares nothing on either side.
  rw [declaredNames, readTokens, Declares]
  cases tree.readText path with
  | ok source => simp [Except.mapError, bind, Except.bind, pure, Except.pure]
  | error cause => simp [Except.mapError, bind, Except.bind]

/-- The index of the classes that some files declare. -/
def declaredIn (tree : FileTree) (settings : Settings) (files : List String) : ClassIndex :=
  -- The declarations come in the order of the files.
  (ClassIndex.insertAll {} (files.flatMap fun path =>
    (tree.declaredNames settings path).map fun name => (name, path))).value

/-- A scan for classes finds the declarations of each file. -/
theorem scanFiles_declarations (tree : FileTree) (settings : Settings) (files : List String) :
    ((tree.scanFiles (classNames true settings.classFilter) files).value.1.flatMap
      fun (path, names) => names.map fun name => (name, path)) =
      files.flatMap fun path => (tree.declaredNames settings path).map
        fun name => (name, path) := by
  -- Over the files: one that is not read adds no declaration.
  induction files with
  | nil => rfl
  | cons path rest ih =>
    simp only [scanFiles, List.map_cons, List.filterMap_cons, List.flatMap_cons,
      declaredNames] at ih ⊢
    cases tree.readTokens path with
    | ok tokens => exact congrArg (_ ++ ·) ih
    | error failure => exact ih

/-- An index holds what the collected files declare. -/
theorem indexClasses_value (tree : FileTree) (settings : Settings) (root : String) :
    (tree.indexClasses settings root).value.map ScanResult.value =
      (tree.collectFiles settings root).value.map (tree.declaredIn settings) := by
  -- The index is built from the declarations of the files collected.
  rw [indexClasses]
  cases (tree.collectFiles settings root).value with
  | error failure => rfl
  | ok files =>
    simp only [Except.map]
    rw [scanFiles_declarations, declaredIn]

/-- The names of an index increase. -/
theorem declaredIn_ordered (tree : FileTree) (settings : Settings) (files : List String) :
    (tree.declaredIn settings files).Ordered :=
  ClassIndex.Ordered.insertAll List.Pairwise.nil _

/-- The first file that declares a class is the one that is looked up. -/
theorem lookup_declaredIn (tree : FileTree) (settings : Settings) (files : List String)
    (name : String) : (tree.declaredIn settings files).entries.lookup name =
      files.find? fun path => decide (name ∈ tree.declaredNames settings path) := by
  -- Over the files: a name is found in the first that declares it.
  rw [declaredIn, ClassIndex.lookup_insertAll]
  induction files with
  | nil => rfl
  | cons path rest ih =>
    rw [List.flatMap_cons, List.lookup_append, lookup_map_pair, List.find?_cons]
    by_cases declared : name ∈ tree.declaredNames settings path
    · simp [declared]
    · simpa [declared] using ih

/-- The entry of a name leads to the first file that declares it. -/
theorem mem_declaredIn_iff : (name, path) ∈ (tree.declaredIn settings files).entries ↔
    ∃ earlier later, files = earlier ++ path :: later ∧ tree.Declares settings path name ∧
      ∀ other ∈ earlier, ¬tree.Declares settings other name := by
  -- An entry is what its lookup finds, and that is the first file that declares the name.
  rw [(tree.declaredIn_ordered settings files).mem_entries_iff, lookup_declaredIn,
    List.find?_eq_some_iff_append]
  simp only [decide_eq_true_eq, Bool.not_eq_true', decide_eq_false_iff_not, mem_declaredNames]
  constructor
  · rintro ⟨declared, earlier, later, split, none⟩
    exact ⟨earlier, later, split, declared, none⟩
  · rintro ⟨earlier, later, split, declared, none⟩
    exact ⟨declared, earlier, later, split, none⟩

/-- An entry leads to one of the files, and the file declares the class. -/
theorem mem_files_of_mem_declaredIn
    (listed : (name, path) ∈ (tree.declaredIn settings files).entries) :
    path ∈ files ∧ tree.Declares settings path name := by
  obtain ⟨earlier, later, rfl, declared, -⟩ := mem_declaredIn_iff.mp listed
  exact ⟨by simp, declared⟩

/-- The classes that have an entry are those that some file declares. -/
theorem mem_names_declaredIn_iff :
    name ∈ (tree.declaredIn settings files).entries.map Prod.fst ↔
      ∃ path ∈ files, tree.Declares settings path name := by
  constructor
  · -- An entry comes from a file that declares it.
    intro listed
    obtain ⟨⟨_, path⟩, entry, rfl⟩ := List.mem_map.mp listed
    exact ⟨path, mem_files_of_mem_declaredIn entry⟩
  · -- Some file declares the name, so the search for the first one succeeds.
    rintro ⟨path, listed, declared⟩
    have known : ((tree.declaredIn settings files).entries.lookup name).isSome := by
      rw [lookup_declaredIn, List.find?_isSome]
      exact ⟨path, listed, by simpa using mem_declaredNames.mpr declared⟩
    obtain ⟨first, found⟩ := Option.isSome_iff_exists.mp known
    exact List.mem_map.mpr
      ⟨(name, first), (tree.declaredIn_ordered settings files).mem_entries_iff.mpr found, rfl⟩

/-- An index has as many entries as there are classes. -/
theorem size_declaredIn (tree : FileTree) (settings : Settings) (files : List String) :
    (tree.declaredIn settings files).size =
      {name | ∃ path ∈ files, tree.Declares settings path name}.ncard := by
  -- The names of the entries are distinct, and they are the names declared.
  have distinct : ((tree.declaredIn settings files).entries.map Prod.fst).Nodup := by
    rw [List.nodup_iff_pairwise_ne, List.pairwise_map]
    exact (tree.declaredIn_ordered settings files).imp fun below => below.ne
  have names : {name | ∃ path ∈ files, tree.Declares settings path name} =
      ((tree.declaredIn settings files).entries.map Prod.fst).toFinset := by
    ext name
    simp only [Set.mem_ofPred_eq, List.coe_toFinset, mem_names_declaredIn_iff]
  rw [names, Set.ncard_coe_finset, List.toFinset_card_of_nodup distinct, List.length_map,
    ClassIndex.size]

/-- No file with a lower path declares the class of an entry. -/
theorem pathOrdered_of_mem_declaredIn
    (collected : (tree.collectFiles settings root).value = .ok files)
    (entry : (name, path) ∈ (tree.declaredIn settings files).entries) {other : String}
    (listed : other ∈ files) (declared : tree.Declares settings other name) :
    pathOrdered path other = true := by
  -- Files are collected in order, and none before the entry's file declares the name.
  have ordered := collectFiles_ordered collected
  obtain ⟨earlier, later, rfl, -, none⟩ := mem_declaredIn_iff.mp entry
  rcases List.mem_append.mp listed with before | behind
  · exact absurd declared (none other before)
  · rcases List.mem_cons.mp behind with rfl | after
    · exact pathOrdered_iff.mpr le_rfl
    · exact List.rel_of_pairwise_cons (List.pairwise_append.mp ordered).2.1 after

/-- The entry of a name leads to the lowest path at which it is declared. -/
theorem WellFormed.mem_declaredIn_iff (wellFormed : tree.WellFormed)
    (collected : (tree.collectFiles settings root).value = .ok files) :
    (name, path) ∈ (tree.declaredIn settings files).entries ↔
      path ∈ files ∧ tree.Declares settings path name ∧
        ∀ other ∈ files, tree.Declares settings other name → pathOrdered path other = true := by
  constructor
  · intro entry
    obtain ⟨listed, declared⟩ := mem_files_of_mem_declaredIn entry
    exact ⟨listed, declared, fun other => pathOrdered_of_mem_declaredIn collected entry⟩
  · rintro ⟨listed, declared, lowest⟩
    obtain ⟨⟨_, first⟩, entry, rfl⟩ :=
      List.mem_map.mp (mem_names_declaredIn_iff.mpr ⟨path, listed, declared⟩)
    obtain ⟨known, own⟩ := mem_files_of_mem_declaredIn entry
    -- Each of the two paths is at most the other one.
    have same : path = first := by
      apply wellFormed.eq_of_pathComponents_eq collected listed known
      exact pathComponents_eq_of_pathOrdered (lowest first known own)
        (pathOrdered_of_mem_declaredIn collected entry listed declared)
    rwa [same]

section Erase

variable {location : Location} {bytes : ByteArray} {fewer : List String}
  (wellFormed : tree.WellFormed) (file : tree.get? location = some (.file bytes))
  (again : ((tree.erase location).collectFiles settings root).value = .ok fewer)
include wellFormed file again

/-- Without a file, the files that are still collected declare what they did. -/
theorem WellFormed.declares_erase (left : path ∈ fewer) :
    (tree.erase location).Declares settings path name ↔ tree.Declares settings path name := by
  -- The file is still there and reads the same.
  obtain ⟨place, entry, leads, there⟩ :=
    ((wellFormed.erase file).collectFiles_spec again).2 path left
  rw [Declares, Declares, (wellFormed.grows_erase file).readText_eq leads there]

variable (collected : (tree.collectFiles settings root).value = .ok files)
  (kept : ∀ path ∈ fewer, path ∈ files)
  (besides : ∀ path ∈ files, path ∈ fewer ∨ tree.LeadsTo path location)
include collected kept besides

/-- Without a file, an entry that does not lead to it stays. -/
theorem WellFormed.mem_declaredIn_erase
    (entry : (name, path) ∈ (tree.declaredIn settings files).entries)
    (elsewhere : tree.locate path ≠ .ok location) :
    (name, path) ∈ ((tree.erase location).declaredIn settings fewer).entries := by
  -- Its file is not the one removed, so it is collected again.
  obtain ⟨listed, declared, lowest⟩ := (wellFormed.mem_declaredIn_iff collected).mp entry
  have left : path ∈ fewer := by
    refine (besides path listed).resolve_right fun leads => ?_
    obtain ⟨source, readable, -⟩ := declared
    exact elsewhere (leads.locate_of_readText readable)
  have declares {other : String} (remains : other ∈ fewer) :
      (tree.erase location).Declares settings other name ↔ tree.Declares settings other name :=
    wellFormed.declares_erase file again remains
  -- It still is the least file that declares the name, as no file has come in.
  refine ((wellFormed.erase file).mem_declaredIn_iff again).mpr
    ⟨left, (declares left).mpr declared, ?_⟩
  intro other remains own
  exact lowest other (kept other remains) ((declares remains).mp own)

/-- Without a file, an index is the same unless one of its entries leads to the file. -/
theorem WellFormed.declaredIn_erase :
    (tree.erase location).declaredIn settings fewer = tree.declaredIn settings files ↔
      ∀ entry ∈ (tree.declaredIn settings files).entries, tree.locate entry.2 ≠ .ok location := by
  constructor
  · rintro same ⟨name, path⟩ listed located
    rw [← same] at listed
    obtain ⟨-, source, readable, -⟩ := mem_files_of_mem_declaredIn listed
    -- The path would still lead to a file, and nothing stands where it leads.
    obtain ⟨place, bytes, found, there, -⟩ := readText_eq_ok_iff.mp readable
    rw [(wellFormed.grows_erase file).locate_eq (by simp [found]), found] at located
    rw [Except.ok.inj located, wellFormed.get?_erase file, if_pos rfl] at there
    simp at there
  · intro elsewhere
    have stays {name path : String}
        (entry : (name, path) ∈ (tree.declaredIn settings files).entries) :=
      wellFormed.mem_declaredIn_erase file again collected kept besides entry (elsewhere _ entry)
    apply (declaredIn_ordered _ _ _).ext (declaredIn_ordered _ _ _)
    rintro ⟨name, path⟩
    refine ⟨fun entry => ?_, stays⟩
    obtain ⟨left, declared⟩ := mem_files_of_mem_declaredIn entry
    have before := (wellFormed.declares_erase file again left).mp declared
    obtain ⟨⟨_, first⟩, old, rfl⟩ :=
      List.mem_map.mp (mem_names_declaredIn_iff.mpr ⟨path, kept path left, before⟩)
    -- A name has one entry, and the one from before is still there.
    have one := (declaredIn_ordered _ _ _).mem_entries_iff.mp (stays old)
    rw [(declaredIn_ordered _ _ _).mem_entries_iff.mp entry] at one
    rwa [Option.some.inj one]

end Erase

/-- An index that could be built holds what the collected files declare. -/
theorem exists_declaredIn {result : ScanResult ClassIndex}
    (built : (tree.indexClasses settings root).value = .ok result) :
    ∃ files, (tree.collectFiles settings root).value = .ok files ∧
      result.value = tree.declaredIn settings files := by
  -- Without the files there would be no index.
  have value := tree.indexClasses_value settings root
  rw [built] at value
  cases collected : (tree.collectFiles settings root).value with
  | error failure => simp [collected, Except.map] at value
  | ok files => exact ⟨files, rfl, by simpa [collected, Except.map] using value⟩

/-- An index can be built of files that could be collected. -/
theorem exists_indexClasses (collected : (tree.collectFiles settings root).value = .ok files) :
    ∃ result, (tree.indexClasses settings root).value = .ok result ∧
      result.value = tree.declaredIn settings files := by
  -- With the files there is one.
  have value := tree.indexClasses_value settings root
  rw [collected] at value
  cases built : (tree.indexClasses settings root).value with
  | error failure => simp [built, Except.map] at value
  | ok result => exact ⟨result, rfl, by simpa [built, Except.map] using value⟩

end FileTree

/-- An index that holds the first of some files for each class that they declare. -/
structure FileTree.IndexesFirst (tree : FileTree) (settings : Settings) (root : String)
    (files : List String) (index : ClassIndex) : Prop where
  /-- The classes of the index are those that some file declares. -/
  names : ∀ name, name ∈ index.entries.map Prod.fst ↔
    ∃ path ∈ files, tree.Declares settings path name
  /-- Each class has the first file that declares it. -/
  first : ∀ name path, (name, path) ∈ index.entries ↔
    ∃ earlier later, files = earlier ++ path :: later ∧ tree.Declares settings path name ∧
      ∀ other ∈ earlier, ¬tree.Declares settings other name
  increasing : index.entries.Pairwise fun left right => bytesOf left.1 < bytesOf right.1
  /-- There are as many entries as classes. -/
  size : index.size = {name | ∃ path ∈ files, tree.Declares settings path name}.ncard
  /-- The first file that declares a class is the one with the lowest path. -/
  lowest : tree.WellFormed → ∀ name path, (name, path) ∈ index.entries ↔
    path ∈ files ∧ tree.Declares settings path name ∧
      ∀ other ∈ files, tree.Declares settings other name → pathOrdered path other = true
  /-- The value of an entry means the file that its path leads to, not the text of the path. -/
  removed : tree.WellFormed → tree.isFile root = false →
    ∀ location bytes, tree.get? location = some (.file bytes) → ¬tree.IsLinkTarget location →
      ∃ after, ((tree.erase location).indexClasses settings root).value = .ok after ∧
        (after.value = index ↔ ∀ entry ∈ index.entries, tree.locate entry.2 ≠ .ok location)

/--
An index has one entry for each class that a file declares, and the entry holds the first of these
files, which is the one with the lowest path.

The value of an entry means the file that its path leads to, and not the text of the path.
So without a file that no link leads to, the index of a directory is the same unless one of its
entries leads to the file, by whatever path.
-/
theorem index_keeps_first_declaration {tree : FileTree} {settings : Settings} {root : String}
    {result : ScanResult ClassIndex}
    (built : (tree.indexClasses settings root).value = .ok result) :
    ∃ files, (tree.collectFiles settings root).value = .ok files ∧
      tree.IndexesFirst settings root files result.value := by
  -- What is declared in the collected files is the index, whatever was skipped on the way.
  obtain ⟨files, collected, value⟩ := FileTree.exists_declaredIn built
  rw [value]
  refine ⟨files, collected, ?_⟩
  exact
    { names := fun _ => FileTree.mem_names_declaredIn_iff
      first := fun _ _ => FileTree.mem_declaredIn_iff
      increasing := (tree.declaredIn_ordered settings files).imp bytesOf_lt
      size := tree.size_declaredIn settings files
      lowest := fun wellFormed _ _ => wellFormed.mem_declaredIn_iff collected
      removed := by
        intro wellFormed several location bytes file unlinked
        obtain ⟨fewer, again, kept, besides⟩ :=
          wellFormed.exists_collectFiles_erase file unlinked several collected
        obtain ⟨after, rebuilt, remaining⟩ := FileTree.exists_indexClasses again
        refine ⟨after, rebuilt, ?_⟩
        rw [remaining]
        exact wellFormed.declaredIn_erase file again collected kept besides }

/-- A folder with two source files and a broken one. -/
def smallFolder (first second : String) : FileTree :=
  -- The last file holds no text.
  { entries := [
      (["app"], .directory), (["app", "a.php"], .file first.toUTF8),
      (["app", "b.php"], .file second.toUTF8), (["app", "c.php"], .file ⟨#[0xff]⟩)] }

section SmallFolder

variable (first second : String)

/-- The folder is well-formed. -/
theorem smallFolder_wellFormed : (smallFolder first second).WellFormed := by
  -- The four locations are distinct, well named and each inside a directory.
  have locations : (smallFolder first second).entries.map Prod.fst =
      [["app"], ["app", "a.php"], ["app", "b.php"], ["app", "c.php"]] := rfl
  refine ⟨?_, ?_, fun location listed => ?_⟩
  · rw [locations]
    decide
  · rw [locations]
    decide +kernel
  · fin_cases listed <;> exact ⟨by simp, rfl⟩

/-- No link stands in the folder. -/
theorem smallFolder_unlinked (location : Location) :
    ¬(smallFolder first second).IsLinkTarget location := by
  -- None of the entries is a link.
  rintro ⟨directory, name, target, linked, -⟩
  have listed := FileTree.mem_entries_of_get? (by simp) linked
  simp [smallFolder] at listed

/-- The files of the folder are collected in the order of their names. -/
theorem smallFolder_collectFiles : ((smallFolder first second).collectFiles {} "app").value =
    .ok ["app/a.php", "app/b.php", "app/c.php"] := by
  -- The walk meets the three files, in the order of their paths.
  have walked : (smallFolder first second).walk true "app" =
      [Visit.mk "app/a.php" ["a.php"], Visit.mk "app/b.php" ["b.php"],
       Visit.mk "app/c.php" ["c.php"]].map .ok := by
    cbv
  refine FileTree.collectFiles_eq_ok_iff.mpr (.inr ⟨by cbv, _, walked, ?_⟩)
  exact (List.mergeSort_of_pairwise (by decide +kernel)).symm

/-- Each path leads to its file. -/
theorem smallFolder_locate :
    (smallFolder first second).locate "app/a.php" = .ok ["app", "a.php"] ∧
    (smallFolder first second).locate "app/b.php" = .ok ["app", "b.php"] ∧
    (smallFolder first second).locate "app/c.php" = .ok ["app", "c.php"] := by
  -- No path is empty, too long or holds a zero, and each is followed to its file.
  refine ⟨?_, ?_, ?_⟩
  all_goals
    rw [FileTree.locate, if_neg (by decide +kernel), if_neg (by decide +kernel),
      if_neg (by decide +kernel)]
    cbv

/-- The two sources can be read, and the broken file cannot. -/
theorem smallFolder_readText :
    (smallFolder first second).readText "app/a.php" = .ok first ∧
    (smallFolder first second).readText "app/b.php" = .ok second ∧
    (smallFolder first second).readText "app/c.php" = .error .notText := by
  -- The first two files hold the bytes of a text, the third a byte that starts no character.
  have text (source : String) : String.fromUTF8? source.toUTF8 = some source := by
    rw [String.fromUTF8?]
    exact dif_pos source.isValidUTF8
  obtain ⟨own, other, last⟩ := smallFolder_locate first second
  refine ⟨FileTree.readText_eq_ok_iff.mpr ⟨_, _, own, rfl, text first⟩,
    FileTree.readText_eq_ok_iff.mpr ⟨_, _, other, rfl, text second⟩, ?_⟩
  have there : (smallFolder first second).get? ["app", "c.php"] = some (.file ⟨#[0xff]⟩) := rfl
  have broken : String.fromUTF8? ⟨#[0xff]⟩ = none := by decide +kernel
  simp only [FileTree.readText, last, bind, Except.bind, there, broken]

/-- The index of the folder holds the classes of the two sources. -/
theorem smallFolder_indexClasses : ∃ result,
    ((smallFolder first second).indexClasses {} "app").value = .ok result ∧
      result.value = (ClassIndex.insertAll {}
        ((classNames true {} (tokenize first)).map (fun name => (name, "app/a.php")) ++
          (classNames true {} (tokenize second)).map fun name => (name, "app/b.php"))).value := by
  -- Of the three files the two that are read declare classes.
  obtain ⟨result, built, value⟩ :=
    FileTree.exists_indexClasses (smallFolder_collectFiles first second)
  obtain ⟨own, other, broken⟩ := smallFolder_readText first second
  refine ⟨result, built, ?_⟩
  rw [value]
  simp [FileTree.declaredIn, FileTree.declaredNames, FileTree.readTokens, own, other, broken,
    Except.mapError, bind, Except.bind, pure, Except.pure]
  rfl

end SmallFolder

/-- Next to a broken file, a file whose classes all have another file can be removed. -/
theorem index_keeps_first_declaration_shared :
    let tree := smallFolder "<?php namespace N; class B {} class A {} class B {}"
      "<?php namespace N; class A {}"
    ∃ result after, (tree.indexClasses {} "app").value = .ok result ∧
      result.value.entries = [("N\\A", "app/a.php"), ("N\\B", "app/a.php")] ∧
      ((tree.erase ["app", "b.php"]).indexClasses {} "app").value = .ok after ∧
      after.value = result.value := by
  intro tree
  have wellFormed : tree.WellFormed := smallFolder_wellFormed _ _
  -- Three declarations in two files leave one entry for each of the two names.
  obtain ⟨result, built, value⟩ := smallFolder_indexClasses
    "<?php namespace N; class B {} class A {} class B {}" "<?php namespace N; class A {}"
  have entries : result.value.entries = [("N\\A", "app/a.php"), ("N\\B", "app/a.php")] := by
    rw [value]
    decide +kernel
  -- No entry leads to the second file, so removing that one keeps the index.
  obtain ⟨files, -, indexed⟩ := index_keeps_first_declaration built
  obtain ⟨after, again, same⟩ := indexed.removed wellFormed (by cbv) ["app", "b.php"] _ rfl
    (smallFolder_unlinked _ _ _)
  refine ⟨result, after, built, entries, again, same.mpr fun entry listed removed => ?_⟩
  rw [entries] at listed
  fin_cases listed <;> simp [smallFolder_locate] at removed

end PhpOutline
