import Mathlib
import PhpOutline.Folder.Scan
import PhpOutline.Proofs.FileTree.Removal

/-!
The files that a scan collects.

Each has a path of its own that leads to something, and they are in the order of their paths.
A file that is created later joins them, and one that is removed leaves the others as they are.
-/

namespace PhpOutline

/-- A walk that does not break off consists of its visits. -/
theorem cutWalk_eq_none_iff {results : List (Except WalkError Visit)} {visits : List Visit} :
    cutWalk results = (visits, none) ↔ results = visits.map .ok := by
  -- Over the results: an error cuts the walk, so without a cut each is a visit.
  induction results generalizing visits with
  | nil => cases visits <;> simp [cutWalk]
  | cons result rest ih =>
    cases result with
    | error cause => cases visits <;> simp [cutWalk]
    | ok visit =>
      cases visits with
      | nil => simp [cutWalk]
      | cons first others =>
        simp only [cutWalk, List.cons.injEq, List.map_cons, Except.ok.injEq,
          ← ih, Prod.ext_iff, and_assoc]

/-- The paths of the files that a scan takes from those that a walk meets. -/
def Settings.pathsOf (settings : Settings) (visits : List Visit) : List String :=
  -- Files with other extensions and excluded ones are left out, and the others are sorted.
  let scanned := visits.filter fun visit => settings.scans visit.path
  ((scanned.filter (!settings.excludesVisit ·)).map Visit.path).mergeSort pathOrdered

/-- A path is taken from a visit that is scanned and not excluded. -/
theorem Settings.mem_pathsOf_iff {settings : Settings} {visits : List Visit} {path : String} :
    path ∈ settings.pathsOf visits ↔ ∃ visit ∈ visits, settings.excludesVisit visit = false ∧
      settings.scans visit.path = true ∧ visit.path = path := by
  simp [pathsOf, and_assoc]

/-- Paths that are in order already are taken as they are. -/
theorem Settings.pathsOf_of_ordered {settings : Settings} {visits : List Visit}
    {paths : List String}
    (kept : ((visits.filter fun visit => settings.scans visit.path).filter
      (!settings.excludesVisit ·)).map Visit.path = paths)
    (ordered : paths.Pairwise fun left right => pathOrdered left right = true) :
    settings.pathsOf visits = paths := by
  rw [pathsOf, kept]
  exact List.mergeSort_of_pairwise ordered

/-- Paths of their own stay so. -/
theorem Settings.pathsOf_nodup (settings : Settings) {visits : List Visit}
    (distinct : (visits.map Visit.path).Nodup) : (settings.pathsOf visits).Nodup := by
  rw [pathsOf, (List.mergeSort_perm _ _).nodup_iff]
  exact distinct.sublist ((List.filter_sublist.trans List.filter_sublist).map _)

namespace FileTree

variable {tree grown : FileTree} {settings : Settings} {root : String} {files : List String}

/-- Files are collected from a single file, or from a walk that does not break off. -/
theorem collectFiles_eq_ok_iff :
    (tree.collectFiles settings root).value = .ok files ↔
      tree.isFile root = true ∧ files = [root] ∨
      tree.isFile root = false ∧ ∃ visits,
        tree.walk settings.skipHidden root = visits.map .ok ∧ files = settings.pathsOf visits := by
  unfold collectFiles
  split
  · -- A root that is a file is collected alone.
    rename_i single
    simp [single, eq_comm]
  · -- Else the walk must not be cut, and the paths are those it selects.
    rename_i several
    simp only [Bool.not_eq_true] at several
    rcases cut : cutWalk (tree.walk settings.skipHidden root) with ⟨visits, cause?⟩
    cases cause? with
    | none =>
      have whole := cutWalk_eq_none_iff.mp cut
      have paths : (((visits.filter fun visit => settings.scans visit.path).partition
          settings.excludesVisit).2.map Visit.path).mergeSort pathOrdered =
            settings.pathsOf visits := by
        simp [Settings.pathsOf, List.partition_eq_filter_filter, Function.comp_def]
      simp only [several, paths, Except.ok.injEq]
      constructor
      · rintro rfl
        exact .inr ⟨trivial, visits, whole, rfl⟩
      · rintro (⟨single, -⟩ | ⟨-, others, same, rfl⟩)
        · simp at single
        · rw [← cutWalk_eq_none_iff, cut] at same
          rw [(Prod.mk.inj same).1]
    | some cause =>
      simp only [several]
      constructor
      · simp
      · rintro (⟨single, -⟩ | ⟨-, others, same, -⟩)
        · simp at single
        · rw [← cutWalk_eq_none_iff, cut] at same
          simp at same

/-- A path that leads somewhere leads to a file or a directory. -/
theorem WellFormed.stands_of_locate (wellFormed : tree.WellFormed) {place : Location}
    (located : tree.locate root = .ok place) : root ≠ "" ∧ tree.Stands place := by
  -- A path that is located is not empty, so it has pieces to follow.
  unfold locate at located
  split at located
  · simp at located
  · split at located
    · simp at located
    · split at located
      · simp at located
      · rename_i named
        refine ⟨by simpa using named, wellFormed.stands_of_follow (fun none => ?_) located⟩
        simp [pathPieces, splitAt_ne_nil] at none

/-- A walk that does not break off goes through a directory. -/
theorem WellFormed.exists_directory (wellFormed : tree.WellFormed)
    (several : tree.isFile root = false) {visits : List Visit}
    (walked : tree.walk settings.skipHidden root = visits.map .ok) :
    ∃ place, root ≠ "" ∧ tree.locate root = .ok place ∧ tree.get? place = some .directory ∧
      tree.walk settings.skipHidden root =
        tree.walkBelow settings.skipHidden [] ⟨place, root⟩ [] := by
  -- A walk without an error starts where something stands, and that is no file.
  unfold walk at walked ⊢
  cases located : tree.locate root with
  | error cause =>
    rw [located] at walked
    cases visits <;> simp at walked
  | ok place =>
    obtain ⟨nonempty, entry, there, plain⟩ := wellFormed.stands_of_locate located
    refine ⟨place, nonempty, rfl, ?_, rfl⟩
    cases entry with
    | directory => exact there
    | file bytes => simp [isFile, located, there] at several
    | link target => exact absurd rfl (plain target)

/-- A file that a walk meets has a path that grows by names, and the path leads to the file. -/
theorem WellFormed.visit_spec (wellFormed : tree.WellFormed)
    (several : tree.isFile root = false) {visits : List Visit}
    (walked : tree.walk settings.skipHidden root = visits.map .ok) {visit : Visit}
    (met : visit ∈ visits) :
    (∃ names : List String, names ≠ [] ∧ (∀ name ∈ names, IsFileName name) ∧
      visit.path = names.foldl joinPath root) ∧
      ∃ place bytes, tree.LeadsTo visit.path place ∧ tree.get? place = some (.file bytes) := by
  -- The visit was found at some name of the directory that the walk starts from.
  obtain ⟨place, nonempty, located, here, below⟩ := wellFormed.exists_directory several walked
  have member : .ok visit ∈ tree.walkBelow settings.skipHidden [] ⟨place, root⟩ [] := by
    rw [← below, walked]
    exact List.mem_map_of_mem met
  rw [walkBelow_eq, List.mem_flatMap] at member
  obtain ⟨name, standing, found⟩ := member
  obtain ⟨⟨tail, valid, path⟩, file⟩ :=
    found_visit wellFormed here nonempty (.inl located) standing found
  exact ⟨⟨name :: tail, by simp, valid, path⟩, file⟩

/-- Every collected file has a path of its own, which leads to something. -/
theorem WellFormed.collectFiles_spec (wellFormed : tree.WellFormed)
    (collected : (tree.collectFiles settings root).value = .ok files) :
    files.Nodup ∧ ∀ path ∈ files,
      ∃ place entry, tree.LeadsTo path place ∧ tree.get? place = some entry := by
  rcases collectFiles_eq_ok_iff.mp collected with ⟨single, rfl⟩ | ⟨several, visits, walked, rfl⟩
  · -- One file, which the root leads to.
    refine ⟨List.nodup_singleton _, fun path listed => ?_⟩
    rw [List.mem_singleton.mp listed]
    cases located : tree.locate root with
    | error cause => simp [isFile, located] at single
    | ok place =>
      obtain ⟨-, entry, there, -⟩ := wellFormed.stands_of_locate located
      exact ⟨place, entry, .inl located, there⟩
  · constructor
    · -- Distinct: no two visits of a walk have the same path.
      obtain ⟨place, nonempty, located, here, below⟩ :=
        wellFormed.exists_directory several walked
      have apart : (tree.walkBelow settings.skipHidden [] ⟨place, root⟩ []).Pairwise _ :=
        walkBelow_paths wellFormed here nonempty (.inl located)
      rw [← below, walked, List.pairwise_map] at apart
      apply settings.pathsOf_nodup
      rw [List.nodup_iff_pairwise_ne, List.pairwise_map]
      exact apart.imp fun differ => differ _ _ rfl rfl
    · -- Each path is that of a visit, which leads to a file.
      intro path listed
      obtain ⟨visit, met, -, -, rfl⟩ := Settings.mem_pathsOf_iff.mp listed
      obtain ⟨-, place, bytes, leads, file⟩ := wellFormed.visit_spec several walked met
      exact ⟨place, _, leads, file⟩

/-- Collected files are in the order of their paths. -/
theorem collectFiles_ordered (collected : (tree.collectFiles settings root).value = .ok files) :
    files.Pairwise fun left right => pathOrdered left right = true := by
  -- The selected paths are sorted, and one path always is.
  rcases collectFiles_eq_ok_iff.mp collected with ⟨-, rfl⟩ | ⟨-, visits, -, rfl⟩
  · exact List.pairwise_singleton _ _
  · exact pairwise_mergeSort_pathOrdered _

/-- The components of their paths tell collected files apart. -/
theorem WellFormed.eq_of_pathComponents_eq (wellFormed : tree.WellFormed)
    (collected : (tree.collectFiles settings root).value = .ok files) {left right : String}
    (first : left ∈ files) (second : right ∈ files)
    (same : pathComponents left = pathComponents right) : left = right := by
  -- Every path is the root with some names joined on, and the names can be read off its components.
  rcases collectFiles_eq_ok_iff.mp collected with ⟨-, rfl⟩ | ⟨several, visits, walked, rfl⟩
  · rw [List.mem_singleton.mp first, List.mem_singleton.mp second]
  · obtain ⟨-, nonempty, -⟩ := wellFormed.exists_directory several walked
    obtain ⟨visit, met, -, -, rfl⟩ := Settings.mem_pathsOf_iff.mp first
    obtain ⟨other, meets, -, -, rfl⟩ := Settings.mem_pathsOf_iff.mp second
    obtain ⟨⟨names, -, valid, path⟩, -⟩ := wellFormed.visit_spec several walked met
    obtain ⟨⟨others, -, sound, another⟩, -⟩ := wellFormed.visit_spec several walked meets
    rw [path, another] at same ⊢
    rw [foldl_joinPath_inj nonempty valid sound same]

/-- Results that are all visits are a list of visits. -/
theorem exists_visits {results : List (Except WalkError Visit)}
    (sound : ∀ result ∈ results, ∃ visit, result = .ok visit) :
    ∃ visits : List Visit, results = visits.map .ok := by
  -- Over the results, each of which is a visit.
  induction results with
  | nil => exact ⟨[], rfl⟩
  | cons result rest ih =>
    obtain ⟨visit, rfl⟩ := sound result (by simp)
    obtain ⟨visits, rfl⟩ := ih fun other listed => sound other (by simp [listed])
    exact ⟨visit :: visits, rfl⟩

/-- With one more file in the tree, a walk through a directory does not break off either. -/
theorem Grows.exists_walk {location : Location} {bytes : ByteArray}
    (grows : tree.Grows grown location bytes) (wellFormed : tree.WellFormed)
    (further : grown.WellFormed) (several : tree.isFile root = false) {visits : List Visit}
    (walked : tree.walk settings.skipHidden root = visits.map .ok) :
    grown.isFile root = false ∧ ∃ others : List Visit,
      grown.walk settings.skipHidden root = others.map .ok ∧
      grown.Gains location (visits.map .ok) (others.map .ok) := by
  -- The walk starts from the same directory, which is an old entry.
  obtain ⟨place, nonempty, located, here, below⟩ := wellFormed.exists_directory several walked
  have same : grown.locate root = .ok place := by
    rw [grows.locate_eq (by simp [located]), located]
  refine ⟨by simp [isFile, same, grows.old _ _ here], ?_⟩
  rw [below] at walked
  have sound : ∀ result ∈ tree.walkBelow settings.skipHidden [] ⟨place, root⟩ [],
      ∃ visit, result = .ok visit := by
    intro result listed
    rw [walked] at listed
    obtain ⟨visit, -, rfl⟩ := List.mem_map.mp listed
    exact ⟨visit, rfl⟩
  have gains := grows.walkBelow_grown wellFormed further here nonempty (.inl located) sound
  -- What is gained are visits too, so the new walk has no error either.
  have unbroken : ∀ result ∈ grown.walkBelow settings.skipHidden [] ⟨place, root⟩ [],
      ∃ visit, result = .ok visit := by
    intro result listed
    rcases gains.2 result listed with before | ⟨visit, own, -⟩
    · exact sound result before
    · exact ⟨visit, own⟩
  obtain ⟨others, again⟩ := exists_visits unbroken
  rw [walked, again] at gains
  exact ⟨others, by rw [walk, same, ← again], gains⟩

/-- The paths taken from a walk that gains a new file are those from before, and paths to it. -/
theorem Gains.pathsOf {location : Location} {visits others : List Visit}
    (gains : grown.Gains location (visits.map .ok) (others.map .ok)) :
    (∀ path ∈ settings.pathsOf visits, path ∈ settings.pathsOf others) ∧
      ∀ path ∈ settings.pathsOf others,
        path ∈ settings.pathsOf visits ∨ grown.LeadsTo path location := by
  constructor
  · -- An old visit is there again and is selected as before.
    intro path listed
    obtain ⟨visit, met, passes⟩ := Settings.mem_pathsOf_iff.mp listed
    have member := gains.1 (.ok visit) (List.mem_map_of_mem met)
    exact Settings.mem_pathsOf_iff.mpr ⟨visit, by simpa using member, passes⟩
  · -- A visit selected now is an old one or leads to the new file.
    intro path listed
    obtain ⟨visit, met, included, scanned, rfl⟩ := Settings.mem_pathsOf_iff.mp listed
    rcases gains.2 (.ok visit) (List.mem_map_of_mem met) with before | ⟨own, equal, leads⟩
    · exact .inl (Settings.mem_pathsOf_iff.mpr
        ⟨visit, by simpa using before, included, scanned, rfl⟩)
    · obtain rfl := Except.ok.inj equal
      exact .inr leads

/-- With one more file in the tree, the same files are collected, and besides only the new one. -/
theorem Grows.exists_collectFiles {location : Location} {bytes : ByteArray}
    (grows : tree.Grows grown location bytes) (wellFormed : tree.WellFormed)
    (further : grown.WellFormed) (collected : (tree.collectFiles settings root).value = .ok files) :
    ∃ more, (grown.collectFiles settings root).value = .ok more ∧ (∀ path ∈ files, path ∈ more) ∧
      ∀ path ∈ more, path ∈ files ∨ grown.LeadsTo path location := by
  rcases collectFiles_eq_ok_iff.mp collected with ⟨single, rfl⟩ | ⟨several, visits, walked, rfl⟩
  · -- A single file stays one.
    refine ⟨[root], collectFiles_eq_ok_iff.mpr (.inl ⟨?_, rfl⟩), by simp, by simp⟩
    cases located : tree.locate root with
    | error cause => simp [isFile, located] at single
    | ok place =>
      obtain ⟨-, entry, there, -⟩ := wellFormed.stands_of_locate located
      have same : grown.locate root = .ok place := by
        rw [grows.locate_eq (by simp [located]), located]
      simp only [isFile, located, there, same, grows.old _ entry there] at single ⊢
      exact single
  · obtain ⟨directory, others, again, gains⟩ :=
      grows.exists_walk wellFormed further several walked
    exact ⟨settings.pathsOf others,
      collectFiles_eq_ok_iff.mpr (.inr ⟨directory, others, again, rfl⟩), gains.pathsOf⟩

/-- Without a file that no link leads to, the files at a directory are those that stay. -/
theorem WellFormed.exists_collectFiles_erase (wellFormed : tree.WellFormed) {location : Location}
    {bytes : ByteArray} (file : tree.get? location = some (.file bytes))
    (unlinked : ¬tree.IsLinkTarget location) (several : tree.isFile root = false)
    (collected : (tree.collectFiles settings root).value = .ok files) :
    ∃ fewer, ((tree.erase location).collectFiles settings root).value = .ok fewer ∧
      (∀ path ∈ fewer, path ∈ files) ∧
      ∀ path ∈ files, path ∈ fewer ∨ tree.LeadsTo path location := by
  have grows := wellFormed.grows_erase file
  rcases collectFiles_eq_ok_iff.mp collected with ⟨single, -⟩ | ⟨-, visits, walked, rfl⟩
  · simp [several] at single
  obtain ⟨place, -, located, here, below⟩ := wellFormed.exists_directory several walked
  have elsewhere : place ≠ location := by
    rintro rfl
    simp [here] at file
  have same := wellFormed.locate_erase file located elsewhere
  -- Without the file the walk starts in the same directory and does not break off either.
  have unbroken : ∀ result ∈ (tree.erase location).walk settings.skipHidden root,
      ∃ visit, result = .ok visit := by
    intro result listed
    have sound : ∀ result ∈ tree.walkBelow settings.skipHidden [] ⟨place, root⟩ [],
        ∃ visit, result = .ok visit := by
      rw [← below, walked]
      simp
    rw [walk, same] at listed
    exact sound result (wellFormed.walkBelow_erase file unlinked sound result listed)
  obtain ⟨others, again⟩ := exists_visits unbroken
  have directory : (tree.erase location).isFile root = false := by
    simp [isFile, same, wellFormed.get?_erase file, elsewhere, here]
  have fewer : ((tree.erase location).collectFiles settings root).value =
      .ok (settings.pathsOf others) :=
    collectFiles_eq_ok_iff.mpr (.inr ⟨directory, others, again, rfl⟩)
  obtain ⟨more, before, kept, besides⟩ :=
    grows.exists_collectFiles (wellFormed.erase file) wellFormed fewer
  obtain rfl := Except.ok.inj (collected.symm.trans before)
  exact ⟨_, fewer, kept, besides⟩

end FileTree

end PhpOutline
