import Mathlib
import PhpOutline.Proofs.Folder.ClassLookup
import PhpOutline.Proofs.Folder.Scan

/-!
Imports by class agree with the imports of the folder.

What is asked for are the files of the classes, so neither their order nor their spelling matters.
If every file that can be read is one of them, the imports are those of the whole folder.
-/

namespace PhpOutline

section Paths

/-- Tests that agree on the members of a list erase the same repetitions. -/
theorem eraseRepsBy_congr {α : Type} {same other : α → α → Bool} {items : List α}
    (agree : ∀ left ∈ items, ∀ right ∈ items, same left right = other left right) :
    items.eraseRepsBy same = items.eraseRepsBy other := by
  -- The loop compares members of the list only, so no comparison tells the two apart.
  have loop (rest : List α) (first : α) (done : List α) (members : first :: rest ⊆ items) :
      List.eraseRepsBy.loop same first rest done = List.eraseRepsBy.loop other first rest done := by
    induction rest generalizing first done with
    | nil => rfl
    | cons second rest ih =>
      obtain ⟨own, second_mem, later⟩ : first ∈ items ∧ second ∈ items ∧ rest ⊆ items := by
        simpa using members
      rw [List.eraseRepsBy.loop, List.eraseRepsBy.loop, agree first own second second_mem]
      cases other first second with
      | true => exact ih first done (by simp [own, later])
      | false => exact ih second (first :: done) (by simp [second_mem, later])
  cases items with
  | nil => rfl
  | cons first rest => exact loop rest first [] (by simp)

/-- If their components tell paths apart, sorting keeps every path. -/
theorem mem_sortDistinctPaths {paths : List String} {path : String}
    (apart : ∀ left ∈ paths, ∀ right ∈ paths,
      pathComponents left = pathComponents right → left = right) :
    path ∈ sortDistinctPaths paths ↔ path ∈ paths := by
  -- As paths with equal components are one path, dropping repetitions loses none.
  have plain : sortDistinctPaths paths = (paths.mergeSort pathOrdered).eraseReps := by
    apply eraseRepsBy_congr
    intro left first right second
    rw [Bool.eq_iff_iff, beq_iff_eq, beq_iff_eq]
    refine ⟨apart left (List.mem_mergeSort.mp first) right (List.mem_mergeSort.mp second), ?_⟩
    rintro rfl
    rfl
  rw [plain, mem_eraseReps, List.mem_mergeSort]

end Paths

namespace FileTree

variable {tree : FileTree} {index : ClassIndex} {classes paths : List String}

/-- The files of the classes are found one by one. -/
theorem mapM_require_eq_ok_iff :
    classes.mapM index.require = .ok paths ↔ classes.map index.path? = paths.map some := by
  -- Over the classes and the paths side by side.
  rw [mapM_eq_ok_iff]
  induction classes generalizing paths with
  | nil => cases paths <;> simp
  | cons first rest ih =>
    cases paths with
    | nil => simp
    | cons path others =>
      have same : index.require first = .ok path ↔ index.path? first = some path := by
        rw [ClassIndex.require]
        cases index.path? first <;> simp
      simp only [List.map_cons, List.cons.injEq, same, ih]

/-- A path is found if it is the path of one of the classes. -/
theorem mem_paths_iff (known : classes.map index.path? = paths.map some) {path : String} :
    path ∈ paths ↔ ∃ className ∈ classes, index.path? className = some path := by
  rw [← List.mem_map, known]
  simp

/-- Classes with the same stripped names are found in the same files. -/
theorem exists_paths_congr {others : List String}
    (known : classes.map index.path? = paths.map some)
    (same : ∀ className, className ∈ others.map stripLeadingSeparators ↔
      className ∈ classes.map stripLeadingSeparators) :
    ∃ more : List String, others.map index.path? = more.map some ∧
      ∀ path, path ∈ more ↔ path ∈ paths := by
  -- A class is looked up by its name without the leading separators.
  have spelled (asked : List String) (path : String) :
      (∃ className ∈ asked, index.path? className = some path) ↔
        ∃ name ∈ asked.map stripLeadingSeparators, index.entries.lookup name = some path := by
    simp [ClassIndex.path?]
  -- So each of the other classes is found where a class of the first list was.
  have each : ∀ className ∈ others, ∃ path, index.path? className = some path := by
    intro className listed
    obtain ⟨asked, own, equal⟩ := List.mem_map.mp ((same _).mp (List.mem_map_of_mem listed))
    have found : index.path? asked ∈ paths.map some := by
      rw [← known]
      exact List.mem_map_of_mem own
    obtain ⟨path, -, present⟩ := List.mem_map.mp found
    refine ⟨path, ?_⟩
    rw [present, ClassIndex.path?, ClassIndex.path?, equal]
  have more : others.map index.path? =
      (others.map fun className => (index.path? className).getD "").map some := by
    rw [List.map_map]
    apply List.map_congr_left
    intro className listed
    obtain ⟨path, present⟩ := each className listed
    simp [present]
  -- The paths then have the same members, since the names asked for do.
  refine ⟨_, more, fun path => ?_⟩
  rw [mem_paths_iff more, mem_paths_iff known, spelled, spelled]
  simp only [same]

/-- Files are read one by one, and each has to be readable. -/
theorem mapM_importsAt_eq_ok_iff {lists : List (List String)} :
    (paths.mapM fun path => (tree.readTokens path).map (imports false)) = .ok lists ↔
      (∀ path ∈ paths, (tree.readText path).isOk = true) ∧
        (paths.map fun path => (tree.importsAt path).names) = lists := by
  -- Over the paths: the names are there exactly if every file is read.
  rw [mapM_eq_ok_iff]
  induction paths generalizing lists with
  | nil => cases lists <;> simp
  | cons path rest ih =>
    have own (names : List String) : (tree.readTokens path).map (imports false) = .ok names ↔
        (tree.readText path).isOk = true ∧ (tree.importsAt path).names = names := by
      rw [← importsAt_isOk, importsAt, ReadResult.names]
      cases (tree.readTokens path).map (imports false) <;> simp [Except.isOk, Except.toBool]
    cases lists with
    | nil => simp
    | cons names others =>
      simp only [List.map_cons, List.cons.injEq, own, ih, List.forall_mem_cons]
      tauto

/-- If their components tell the paths apart, the imports by classes are those of all their files,
which have to be readable. -/
theorem classImports_eq_ok_iff {names : List String}
    (known : classes.map index.path? = paths.map some)
    (apart : ∀ left ∈ paths, ∀ right ∈ paths,
      pathComponents left = pathComponents right → left = right) :
    tree.classImports index classes = .ok names ↔
      (∀ path ∈ paths, (tree.readText path).isOk = true) ∧
        sortDistinct (paths.flatMap fun path => (tree.importsAt path).names) = names := by
  -- Sorting and dropping repetitions forget in which order the files were read.
  have step (lists : Except Failure (List (List String))) :
      lists.map (fun names => sortDistinct names.flatten) = .ok names ↔
        ∃ found, lists = .ok found ∧ sortDistinct found.flatten = names := by
    cases lists <;> simp [Except.map]
  have same : sortDistinct
      ((sortDistinctPaths paths).map fun path => (tree.importsAt path).names).flatten =
        sortDistinct (paths.flatMap fun path => (tree.importsAt path).names) := by
    apply sortDistinct_congr
    intro name
    simp [mem_sortDistinctPaths apart]
  rw [classImports_eq, mapM_require_eq_ok_iff.mpr known, Except.bind, step]
  simp only [mapM_importsAt_eq_ok_iff, mem_sortDistinctPaths apart, and_assoc, exists_and_left,
    exists_eq_left', same]

/-- Imports that are reported are those by classes that are all found. -/
theorem exists_paths_of_classImports {names : List String}
    (found : tree.classImports index classes = .ok names) :
    ∃ paths : List String, classes.map index.path? = paths.map some := by
  -- A class without a file fails the whole.
  rw [classImports_eq] at found
  cases known : classes.mapM index.require with
  | error failure => simp [known, Except.bind] at found
  | ok paths => exact ⟨paths, mapM_require_eq_ok_iff.mp known⟩

section Collected

variable {settings : Settings} {root : String} {files : List String}
  (known : classes.map (tree.declaredIn settings files).path? = paths.map some)
include known

/-- The files of classes are collected files. -/
theorem mem_files_of_mem_paths {path : String} (listed : path ∈ paths) : path ∈ files := by
  -- A path in the index is that of a file collected.
  obtain ⟨className, -, own⟩ := (mem_paths_iff known).mp listed
  have entry := (tree.declaredIn_ordered settings files).path?_eq_some_iff.mp own
  exact (mem_files_of_mem_declaredIn entry).1

/-- The components of their paths tell the files of classes apart. -/
theorem WellFormed.eq_of_mem_paths (wellFormed : tree.WellFormed)
    (collected : (tree.collectFiles settings root).value = .ok files) :
    ∀ left ∈ paths, ∀ right ∈ paths,
      pathComponents left = pathComponents right → left = right := by
  -- Paths that were collected differ in their components.
  intro left first right second
  exact wellFormed.eq_of_pathComponents_eq collected (mem_files_of_mem_paths known first)
    (mem_files_of_mem_paths known second)

end Collected

end FileTree

/-- The imports by some classes are names that the folder imports, in increasing order.

They depend only on which classes are asked for, and they are all names that the folder imports if
every file that can be read is the file of one of the classes. -/
theorem class_imports_within_folder {tree : FileTree} {settings : Settings} {root : String}
    {built : ScanResult ClassIndex} {scanned : ScanResult (List String)}
    {classes names : List String} (wellFormed : tree.WellFormed)
    (indexed : (tree.indexClasses settings root).value = .ok built)
    (scan : (tree.folderImports settings root).value = .ok scanned)
    (found : tree.classImports built.value classes = .ok names) :
    (names.Pairwise fun left right => bytesOf left < bytesOf right) ∧
    (∀ name ∈ names, name ∈ scanned.value) ∧
    (∀ others : List String,
      (∀ className, className ∈ others.map stripLeadingSeparators ↔
        className ∈ classes.map stripLeadingSeparators) →
      tree.classImports built.value others = .ok names) ∧
    ∃ files, (tree.collectFiles settings root).value = .ok files ∧
      ((∀ path ∈ files, (tree.readText path).isOk = true →
        ∃ className ∈ classes, built.value.path? className = some path) →
        names = scanned.value) := by
  -- The index was built from the files of the folder, and the scan read the same ones.
  obtain ⟨files, collected, value⟩ := FileTree.exists_declaredIn indexed
  obtain rfl := Except.ok.inj (scan.symm.trans (FileTree.folderImports_value collected))
  rw [value] at found ⊢
  obtain ⟨paths, known⟩ := FileTree.exists_paths_of_classImports found
  -- So the classes have paths, and no two of these are spelled differently for one file.
  have apart := wellFormed.eq_of_mem_paths known collected
  obtain ⟨readable, rfl⟩ := (FileTree.classImports_eq_ok_iff known apart).mp found
  refine ⟨sortDistinct_increasing _, ?_, ?_, files, collected, ?_⟩
  · -- Every name is imported by a file of the folder.
    intro name listed
    obtain ⟨path, own, imported⟩ := List.mem_flatMap.mp (mem_sortDistinct.mp listed)
    rw [scanOutcome, mem_sortDistinct, List.flatMap_map]
    exact List.mem_flatMap.mpr ⟨path, FileTree.mem_files_of_mem_paths known own, imported⟩
  · -- Other spellings of the same classes lead to the same files.
    intro others same
    obtain ⟨more, again, equal⟩ := FileTree.exists_paths_congr known same
    have distinct := wellFormed.eq_of_mem_paths again collected
    refine (FileTree.classImports_eq_ok_iff again distinct).mpr ⟨?_, ?_⟩
    · intro path listed
      exact readable path ((equal path).mp listed)
    · apply sortDistinct_congr
      intro name
      simp only [List.mem_flatMap, equal]
  · -- Once every readable file is asked for, its imports are among the names.
    intro covered
    apply sortDistinct_congr
    intro name
    rw [List.flatMap_map, List.mem_flatMap, List.mem_flatMap]
    constructor
    · rintro ⟨path, listed, imported⟩
      exact ⟨path, FileTree.mem_files_of_mem_paths known listed, imported⟩
    · rintro ⟨path, listed, imported⟩
      obtain ⟨source, read, -⟩ := (FileTree.mem_importsAt_names false).mp imported
      have own := covered path listed (by rw [read]; rfl)
      exact ⟨path, (FileTree.mem_paths_iff known).mpr own, imported⟩

/-- A folder with two files that share an import and a class. -/
def pairFolder : FileTree :=
  -- Each of them declares a class of its own.
  smallFolder "<?php namespace N; use X; use Y; class A {} class B {}"
    "<?php namespace N; use Y; use Z; class A {} class C {}"

/-- The class that both files declare is that of the first one. -/
theorem pairFolder_indexClasses : ∃ built, (pairFolder.indexClasses {} "app").value = .ok built ∧
    built.value.entries =
      [("N\\A", "app/a.php"), ("N\\B", "app/a.php"), ("N\\C", "app/b.php")] := by
  -- The two files that can be read declare the classes.
  obtain ⟨built, indexed, value⟩ := smallFolder_indexClasses
    "<?php namespace N; use X; use Y; class A {} class B {}"
    "<?php namespace N; use Y; use Z; class A {} class C {}"
  refine ⟨built, indexed, ?_⟩
  rw [value]
  decide +kernel

/-- Two classes of the folder bring in all that it imports, however they are asked for. -/
theorem class_imports_within_folder_pair :
    ∃ built scanned, (pairFolder.indexClasses {} "app").value = .ok built ∧
      (pairFolder.folderImports {} "app").value = .ok scanned ∧ scanned.value = ["X", "Y", "Z"] ∧
      pairFolder.classImports built.value ["N\\A", "\\N\\C"] = .ok ["X", "Y", "Z"] ∧
      pairFolder.classImports built.value ["\\N\\C", "\\N\\A", "N\\C"] =
        .ok ["X", "Y", "Z"] := by
  -- The two classes lie in the two files that are read.
  obtain ⟨built, indexed, entries⟩ := pairFolder_indexClasses
  have known : ["N\\A", "\\N\\C"].map built.value.path? =
      ["app/a.php", "app/b.php"].map some := by
    simp only [List.map_cons, List.map_nil, ClassIndex.path?, entries]
    decide +kernel
  have collected : (pairFolder.collectFiles {} "app").value =
      .ok ["app/a.php", "app/b.php", "app/c.php"] := smallFolder_collectFiles _ _
  obtain ⟨own, other, broken⟩ : pairFolder.readText "app/a.php" = .ok _ ∧
      pairFolder.readText "app/b.php" = .ok _ ∧ pairFolder.readText "app/c.php" = .error _ :=
    smallFolder_readText _ _
  -- Asked for both, the index gives the imports of both files without repetition.
  have found : pairFolder.classImports built.value ["N\\A", "\\N\\C"] =
      .ok ["X", "Y", "Z"] := by
    refine (FileTree.classImports_eq_ok_iff known (by decide +kernel)).mpr ⟨?_, ?_⟩
    · simp [own, other, Except.isOk, Except.toBool]
    · have names : (["app/a.php", "app/b.php"].flatMap fun path =>
          (pairFolder.importsAt path).names) = ["X", "Y", "Y", "Z"] := by
        simp only [FileTree.importsAt_eq, own, other, List.flatMap_cons, List.flatMap_nil]
        decide +kernel
      rw [names, sortDistinct, List.mergeSort_of_pairwise (by decide)]
      decide
  have wellFormed : pairFolder.WellFormed := smallFolder_wellFormed _ _
  -- The scan gives the same names, since the third file is not readable.
  obtain ⟨-, -, others, files, same, all⟩ := class_imports_within_folder wellFormed indexed
    (FileTree.folderImports_value collected) found
  obtain rfl := Except.ok.inj (collected.symm.trans same)
  refine ⟨built, _, indexed, FileTree.folderImports_value collected, (all ?_).symm, found,
    others _ fun className => ?_⟩
  · intro path listed readable
    have file : path = "app/a.php" ∨ path = "app/b.php" := by
      fin_cases listed
      · exact .inl rfl
      · exact .inr rfl
      · simp [broken, Except.isOk, Except.toBool] at readable
    exact (FileTree.mem_paths_iff known).mp (by simpa using file)
  · -- Repeated and rooted, the names asked for are the same two.
    have asked : ["\\N\\C", "\\N\\A", "N\\C"].map stripLeadingSeparators =
        ["N\\C", "N\\A", "N\\C"] := by decide +kernel
    have before : ["N\\A", "\\N\\C"].map stripLeadingSeparators = ["N\\A", "N\\C"] := by
      decide +kernel
    rw [asked, before]
    simp only [List.mem_cons, List.not_mem_nil, or_false]
    tauto

end PhpOutline
