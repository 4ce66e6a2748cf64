import Mathlib
import PhpOutline.Proofs.Folder.Collect
import PhpOutline.Proofs.Text.ByteOrder

/-!
A scan of a folder isolates the files that fail.

Every collected file is either read or skipped, and what the other files import is reported.
Neither a broken file that is created later nor the order in which files are read changes that.
-/

namespace PhpOutline

section SortDistinct

/-- What is done is put in front of the rest. -/
theorem eraseRepsBy_loop_eq {α : Type} (same : α → α → Bool) (first : α) (rest done : List α) :
    List.eraseRepsBy.loop same first rest done =
      done.reverse ++ (first :: rest).eraseRepsBy same := by
  -- Over the rest; what the loop has done stands in front, reversed.
  induction rest generalizing first done with
  | nil => simp [List.eraseRepsBy, List.eraseRepsBy.loop]
  | cons second rest ih =>
    rw [List.eraseRepsBy, List.eraseRepsBy.loop, List.eraseRepsBy.loop]
    split
    · rw [ih, ih first []]
      simp
    · rw [ih, ih second [first]]
      simp

/-- Of two equal neighbours the second one is erased. -/
theorem eraseReps_cons_cons (first second : String) (rest : List String) :
    (first :: second :: rest).eraseReps =
      if first = second then (second :: rest).eraseReps
      else first :: (second :: rest).eraseReps := by
  -- One turn of the loop compares the first two.
  rw [List.eraseReps, List.eraseRepsBy, List.eraseRepsBy.loop]
  by_cases same : first = second
  · simp [same, eraseRepsBy_loop_eq, List.eraseReps]
  · have unequal : (first == second) = false := by simpa using same
    simp [same, unequal, eraseRepsBy_loop_eq, List.eraseReps]

/-- No text disappears. -/
theorem mem_eraseReps {text : String} (texts : List String) :
    text ∈ texts.eraseReps ↔ text ∈ texts := by
  -- Over the texts: what is dropped at the front equals the text behind it.
  induction texts with
  | nil => simp [List.eraseReps, List.eraseRepsBy]
  | cons first rest ih =>
    cases rest with
    | nil => simp [List.eraseReps, List.eraseRepsBy, List.eraseRepsBy.loop]
    | cons second rest =>
      rw [eraseReps_cons_cons]
      split
      · rename_i same
        rw [ih, same]
        simp
      · simp [ih]

/-- Sorted texts without equal neighbours increase. -/
theorem eraseReps_increasing {texts : List String} (sorted : texts.Pairwise (· ≤ ·)) :
    texts.eraseReps.Pairwise (· < ·) := by
  induction texts with
  | nil => simp [List.eraseReps, List.eraseRepsBy]
  | cons first rest ih =>
    have rising := ih sorted.of_cons
    cases rest with
    | nil => simp [List.eraseReps, List.eraseRepsBy, List.eraseRepsBy.loop]
    | cons second rest =>
      rw [eraseReps_cons_cons]
      split
      · exact rising
      · rename_i differ
        refine List.pairwise_cons.mpr ⟨fun text listed => ?_, rising⟩
        -- The first text is below the second one, and that is below the others.
        have below : first < second :=
          lt_of_le_of_ne (List.rel_of_pairwise_cons sorted (by simp)) differ
        rcases List.mem_cons.mp ((mem_eraseReps _).mp listed) with rfl | later
        · exact below
        · exact lt_of_lt_of_le below (List.rel_of_pairwise_cons sorted.of_cons later)

/-- Sorting keeps every text. -/
@[simp]
theorem mem_sortDistinct {text : String} {texts : List String} :
    text ∈ sortDistinct texts ↔ text ∈ texts := by
  rw [sortDistinct, mem_eraseReps, List.mem_mergeSort]

/-- The bytes of sorted texts increase. -/
theorem sortDistinct_increasing (texts : List String) :
    (sortDistinct texts).Pairwise fun left right => bytesOf left < bytesOf right := by
  -- Sorted by text, and the order of texts is that of their bytes.
  have sorted : (texts.mergeSort fun left right => decide (left ≤ right)).Pairwise
      fun left right => decide (left ≤ right) = true :=
    List.pairwise_mergeSort (by simpa using fun _ _ _ => String.le_trans)
      (by simpa using String.le_total) texts
  simp only [decide_eq_true_eq] at sorted
  exact (eraseReps_increasing sorted).imp bytesOf_lt

/-- Sorted texts are determined by which they are. -/
theorem sortDistinct_congr {left right : List String} (same : ∀ text, text ∈ left ↔ text ∈ right) :
    sortDistinct left = sortDistinct right := by
  -- Both lists are in strict order, so equal members make them equal.
  have irrefl : Std.Irrefl fun first second : String => bytesOf first < bytesOf second :=
    ⟨fun text => List.lt_irrefl (bytesOf text)⟩
  have antisymm : Std.Antisymm fun first second : String => bytesOf first < bytesOf second :=
    ⟨fun _ _ below above => absurd below (List.lt_asymm above)⟩
  refine (sortDistinct_increasing left).eq_of_mem_iff (sortDistinct_increasing right) fun text => ?_
  simp [same]

end SortDistinct

section Outcome

/-- What reading a file gave, under its path. -/
abbrev ReadResult := String × Except Failure (List String)

/-- The names that a file imports. -/
def ReadResult.names (result : ReadResult) : List String :=
  -- Nothing is known of a file that failed.
  match result.2 with
  | .ok names => names
  | .error _ => []

/-- The failure that a file is skipped with. -/
def ReadResult.skipped? (result : ReadResult) : Option SkippedFile :=
  -- A file that was read is not skipped.
  match result.2 with
  | .ok _ => none
  | .error failure => some ⟨result.1, failure.message⟩

/-- The result of a scan that read its files as given. -/
def scanOutcome (results : List ReadResult) : ScanResult (List String) :=
  -- The names of all files are put together.
  ⟨sortDistinct (results.flatMap ReadResult.names), results.length,
    results.filterMap ReadResult.skipped?⟩

/-- The skipped files are those that failed, in the order of the results. -/
theorem scanOutcome_skipped_paths (results : List ReadResult) :
    (scanOutcome results).skipped.map SkippedFile.path =
      (results.filter fun result => !result.2.isOk).map Prod.fst := by
  -- A file is skipped exactly if its result is a failure.
  rw [scanOutcome, List.map_filterMap, ← List.filterMap_eq_map, List.filterMap_filter]
  congr
  funext ⟨path, outcome⟩
  cases outcome <;> rfl

/-- Further failures are skipped one by one and change no name that is reported. -/
theorem scanOutcome_isolates {results failed more : List ReadResult}
    (joined : more.Perm (failed ++ results)) (broken : ∀ result ∈ failed, result.2.isOk = false) :
    (scanOutcome more).value = (scanOutcome results).value ∧
      ∃ skipped : List SkippedFile, skipped.map SkippedFile.path = failed.map Prod.fst ∧
        (scanOutcome more).skipped.Perm (skipped ++ (scanOutcome results).skipped) := by
  constructor
  · -- A failed result has no names, so the names are the same as a set.
    have nameless : failed.flatMap ReadResult.names = [] := by
      rw [List.flatMap_eq_nil_iff]
      rintro ⟨path, outcome⟩ listed
      cases outcome with
      | error failure => rfl
      | ok names => exact absurd (broken _ listed) (by simp [Except.isOk, Except.toBool])
    apply sortDistinct_congr
    intro name
    rw [(joined.flatMap_right _).mem_iff, List.flatMap_append, nameless, List.nil_append]
  · -- The failures come out of the results in whatever order these are joined.
    refine ⟨(scanOutcome failed).skipped, ?_, ?_⟩
    · rw [scanOutcome_skipped_paths, List.filter_eq_self.mpr]
      intro result listed
      simp [broken result listed]
    · have kept := joined.filterMap ReadResult.skipped?
      rwa [List.filterMap_append] at kept

end Outcome

namespace FileTree

variable {tree grown : FileTree} {settings : Settings} {folder : String} {files : List String}

/-- What the file at a path imports. -/
def importsAt (tree : FileTree) (path : String) : ReadResult :=
  -- The names are sorted together with those of the other files.
  (path, (tree.readTokens path).map (imports false))

/-- A scan reads the imports of each file. -/
theorem scanFiles_value (tree : FileTree) (files : List String) :
    (tree.scanFiles (imports false) files).value.1.flatMap Prod.snd =
        (files.map tree.importsAt).flatMap ReadResult.names ∧
      (tree.scanFiles (imports false) files).value.2 =
        (files.map tree.importsAt).filterMap ReadResult.skipped? := by
  -- Over the files: a read one gives its names, another a failure.
  induction files with
  | nil => exact ⟨rfl, rfl⟩
  | cons path rest ih =>
    simp only [scanFiles, List.map_cons, List.filterMap_cons, List.flatMap_cons, importsAt] at ih ⊢
    cases (tree.readTokens path).map (imports false) with
    | ok names => exact ⟨congrArg (names ++ ·) ih.1, ih.2⟩
    | error failure => exact ⟨ih.1, congrArg (⟨path, failure.message⟩ :: ·) ih.2⟩

/-- A scan of a folder reads the collected files. -/
theorem folderImports_value (collected : (tree.collectFiles settings folder).value = .ok files) :
    (tree.folderImports settings folder).value = .ok (scanOutcome (files.map tree.importsAt)) := by
  obtain ⟨names, skipped⟩ := tree.scanFiles_value files
  simp [folderImports, collected, scanOutcome, names, skipped]

/-- A file gives its imports if it can be read, and fails otherwise. -/
theorem importsAt_eq (tree : FileTree) (path : String) :
    tree.importsAt path = (path, ((tree.readText path).map fun source =>
      imports false (tokenize source)).mapError (Failure.unreadableSource path)) := by
  rw [importsAt, readTokens]
  cases tree.readText path <;> rfl

/-- A file fails if it cannot be read. -/
theorem importsAt_isOk (tree : FileTree) (path : String) :
    (tree.importsAt path).2.isOk = (tree.readText path).isOk := by
  rw [importsAt_eq]
  cases tree.readText path <;> rfl

/-- The names that a file brings in do not depend on whether they are sorted. -/
theorem mem_importsAt_names {path name : String} (sorted : Bool) :
    name ∈ (tree.importsAt path).names ↔ ∃ source,
      tree.readText path = .ok source ∧ name ∈ imports sorted (tokenize source) := by
  -- Sorting does not change which names there are.
  have either (tokens : List Token) :
      name ∈ imports false tokens ↔ name ∈ imports sorted tokens := by
    cases sorted <;> simp [imports]
  rw [importsAt_eq]
  cases readable : tree.readText path with
  | error cause => simp [Except.map, Except.mapError, ReadResult.names]
  | ok source => simp [Except.map, Except.mapError, ReadResult.names, either]

/-- The skipped files are those that cannot be read. -/
theorem skipped_paths (tree : FileTree) (files : List String) :
    (scanOutcome (files.map tree.importsAt)).skipped.map SkippedFile.path =
      files.filter fun path => !(tree.readText path).isOk := by
  -- Reading fails exactly where the text cannot be read.
  rw [scanOutcome_skipped_paths, List.filter_map, List.map_map]
  have own : Prod.fst ∘ tree.importsAt = id := rfl
  simp [own, Function.comp_def, importsAt_isOk]

/-- The slots of the files after a worker has read the one at an index. -/
def fillSlot (tree : FileTree) (files : List String) (slots : List (Option ReadResult))
    (index : Nat) : List (Option ReadResult) :=
  -- Every file has the slot of its own index.
  slots.set index (files[index]?.map tree.importsAt)

/-- The result of a scan whose workers finish in the given order. -/
def scanInOrder (tree : FileTree) (files : List String) (order : List Nat) :
    ScanResult (List String) :=
  -- The results are taken from the slots once all workers are done.
  let slots := order.foldl (tree.fillSlot files) (List.replicate files.length none)
  scanOutcome slots.reduceOption

/-- The slots whose workers are done hold what was read, and the others stay as they are. -/
theorem getElem?_foldl_fillSlot (tree : FileTree) (files : List String) (order : List Nat)
    (slots : List (Option ReadResult)) (sized : slots.length = files.length) (index : Nat) :
    (order.foldl (tree.fillSlot files) slots)[index]? =
      if index ∈ order then files[index]?.map (some ∘ tree.importsAt) else slots[index]? := by
  -- The induction is on the workers in the order in which they finish.
  induction order generalizing slots with
  | nil => simp
  | cons first rest ih =>
    rw [List.foldl_cons, ih _ (by simpa [fillSlot] using sized), fillSlot, List.getElem?_set]
    by_cases again : index ∈ rest
    · simp [again]
    · by_cases now : first = index
      · subst now
        cases file : files[first]? with
        | none =>
          have outside : ¬first < slots.length := by
            rw [sized]
            exact Nat.not_lt.mpr (List.getElem?_eq_none_iff.mp file)
          simp [again, outside]
        | some path =>
          have inside : first < slots.length := by
            rw [sized]
            exact (List.getElem?_eq_some_iff.mp file).1
          simp [again, inside]
      · have other : index ≠ first := fun same => now same.symm
        simp [again, now, other]

/-- The order in which workers finish does not matter. -/
theorem scanInOrder_eq {order : List Nat} (complete : order.Perm (List.range files.length)) :
    tree.scanInOrder files order = scanOutcome (files.map tree.importsAt) := by
  -- Each slot is filled once the order is through, whenever its turn was.
  have filled : order.foldl (tree.fillSlot files) (List.replicate files.length none) =
      files.map (some ∘ tree.importsAt) := by
    apply List.ext_getElem?
    intro index
    rw [getElem?_foldl_fillSlot _ _ _ _ (by simp), List.getElem?_map]
    split
    · rfl
    · rename_i unread
      have outside : files.length ≤ index := by simpa [complete.mem_iff] using unread
      rw [List.getElem?_eq_none (by simpa using outside), List.getElem?_eq_none outside,
        Option.map_none]
  rw [scanInOrder, filled, List.reduceOption, List.filterMap_map]
  simp [Function.comp_def]

/-- With one more broken file in the tree, the results are those from before and its failures. -/
theorem Grows.exists_failed {location : Location} {bytes : ByteArray}
    (grows : tree.Grows grown location bytes) (wellFormed : tree.WellFormed)
    (further : grown.WellFormed) (unreadable : String.fromUTF8? bytes = none)
    (collected : (tree.collectFiles settings folder).value = .ok files) :
    ∃ more added, (grown.collectFiles settings folder).value = .ok more ∧
      more.Perm (added ++ files) ∧ (∀ path ∈ added, (grown.readText path).isOk = false) ∧
      files.map grown.importsAt = files.map tree.importsAt := by
  obtain ⟨more, again, kept, besides⟩ := grows.exists_collectFiles wellFormed further collected
  obtain ⟨apart, present⟩ := wellFormed.collectFiles_spec collected
  obtain ⟨distinct, -⟩ := further.collectFiles_spec again
  -- No path is collected twice, so the files are those from before and the others.
  refine ⟨more, more.filter (· ∉ files), again, ?_, ?_, ?_⟩
  · have disjoint : (more.filter (· ∉ files)).Disjoint files := by
      intro path new old
      simp [old] at new
    rw [List.perm_ext_iff_of_nodup distinct ((distinct.filter _).append apart disjoint)]
    intro path
    by_cases old : path ∈ files
    · simp [old, kept path old]
    · simp [old]
  · intro path new
    obtain ⟨listed, fresh⟩ := List.mem_filter.mp new
    have leads := (besides path listed).resolve_left (by simpa using fresh)
    obtain ⟨cause, failed⟩ := grows.readText_new unreadable leads
    rw [failed]
    rfl
  · apply List.map_congr_left
    intro path listed
    obtain ⟨place, entry, leads, there⟩ := present path listed
    rw [importsAt_eq, importsAt_eq, grows.readText_eq leads there]

/-- A file is skipped once if it cannot be read, and never otherwise. -/
theorem count_skipped_paths (distinct : files.Nodup) {path : String} (listed : path ∈ files) :
    ((scanOutcome (files.map tree.importsAt)).skipped.map SkippedFile.path).count path =
      if (tree.readText path).isOk then 0 else 1 := by
  rw [skipped_paths, (distinct.filter _).count]
  cases readable : (tree.readText path).isOk <;> simp [listed, readable]

/-- A name is reported if some file that can be read imports it. -/
theorem mem_scan_value (sorted : Bool) {name : String} :
    name ∈ (scanOutcome (files.map tree.importsAt)).value ↔ ∃ path ∈ files, ∃ source,
      tree.readText path = .ok source ∧ name ∈ imports sorted (tokenize source) := by
  simp only [scanOutcome, mem_sortDistinct, List.mem_flatMap, List.mem_map,
    exists_exists_and_eq_and, mem_importsAt_names sorted]

/-- A broken file that is created fails once for every path by which it is scanned. -/
theorem WellFormed.scan_put (wellFormed : tree.WellFormed)
    (collected : (tree.collectFiles settings folder).value = .ok files) {location : Location}
    {bytes : ByteArray} (vacant : tree.IsVacant location)
    (unreadable : String.fromUTF8? bytes = none) :
    let grown := tree.put location (.file bytes)
    let before := scanOutcome (files.map tree.importsAt)
    ∃ more, (grown.collectFiles settings folder).value = .ok more ∧
      let after := scanOutcome (more.map grown.importsAt)
      after.value = before.value ∧ ∃ failures : List SkippedFile,
        more.Perm (failures.map SkippedFile.path ++ files) ∧
        after.skipped.Perm (failures ++ before.skipped) := by
  -- The new tree collects the old files and besides them only paths to the new one.
  intro grown before
  obtain ⟨more, added, again, joined, broken, same⟩ := (grows_put vacant bytes).exists_failed
    wellFormed (wellFormed.put vacant bytes) unreadable collected
  have results : (more.map grown.importsAt).Perm
      (added.map grown.importsAt ++ files.map tree.importsAt) := by
    have mapped := joined.map grown.importsAt
    rwa [List.map_append, same] at mapped
  -- All of these fail, as the new file is not readable.
  have failed : ∀ result ∈ added.map grown.importsAt, result.2.isOk = false := by
    intro result listed
    obtain ⟨path, new, rfl⟩ := List.mem_map.mp listed
    rw [importsAt_isOk]
    exact broken path new
  obtain ⟨value, failures, paths, skipped⟩ := scanOutcome_isolates results failed
  refine ⟨more, again, value, failures, ?_, skipped⟩
  have own : Prod.fst ∘ grown.importsAt = id := rfl
  rwa [paths, List.map_map, own, List.map_id]

end FileTree

/-- A single new path brings a single failure. -/
theorem exists_single_failure {files more : List String} {path : String}
    {failures skipped others : List SkippedFile}
    (joined : more.Perm (failures.map SkippedFile.path ++ files))
    (kept : others.Perm (failures ++ skipped)) (one : more.Perm (path :: files)) :
    ∃ message, others.Perm (⟨path, message⟩ :: skipped) := by
  -- What is joined to the same files has the same members, so the failures are just the one.
  have single : (failures.map SkippedFile.path).Perm [path] :=
    (List.perm_append_right_iff files).mp (joined.symm.trans one)
  obtain ⟨failure, rfl, rfl⟩ := List.map_eq_singleton_iff.mp (List.perm_singleton.mp single)
  exact ⟨failure.message, kept⟩

/-- What is scanned and what fails in a tree that has grown by a file that is no text. -/
structure FileTree.AddsFailures (grown : FileTree) (settings : Settings) (folder : String)
    (files more : List String) (result after : ScanResult (List String)) : Prop where
  collected : (grown.collectFiles settings folder).value = .ok more
  scanned : (grown.folderImports settings folder).value = .ok after
  /-- No name is lost, and none is added. -/
  sameNames : after.value = result.value
  /-- The failures that are added are those of the paths that are added. -/
  ownFailures : ∃ failures : List SkippedFile,
    more.Perm (failures.map SkippedFile.path ++ files) ∧
      after.skipped.Perm (failures ++ result.skipped)
  /-- A single path that is added brings a single failure. -/
  single : ∀ path, more.Perm (path :: files) →
    ∃ message, after.skipped.Perm (⟨path, message⟩ :: result.skipped)

/-- A scan that reads or skips each of some files, whatever becomes of the others. -/
structure FileTree.IsolatesFailures (tree : FileTree) (settings : Settings) (folder : String)
    (files : List String) (result : ScanResult (List String)) : Prop where
  fileCount : result.fileCount = files.length
  /-- The files that are skipped are those that cannot be read, in the order of the files. -/
  skipped : result.skipped.map SkippedFile.path =
    files.filter fun path => !(tree.readText path).isOk
  complete : result.isComplete = true ↔ ∀ path ∈ files, (tree.readText path).isOk = true
  /-- The names are in strict order, so none is there twice. -/
  increasing : result.value.Pairwise fun left right => bytesOf left < bytesOf right
  /-- The names are those that the files import that can be read. -/
  imported : ∀ sorted name, name ∈ result.value ↔ ∃ path ∈ files, ∃ source,
    tree.readText path = .ok source ∧ name ∈ imports sorted (tokenize source)
  /-- The order in which workers finish does not matter. -/
  anyOrder : ∀ order : List Nat, order.Perm (List.range files.length) →
    tree.scanInOrder files order = result
  /-- A file is skipped once if it cannot be read, and never otherwise. -/
  once : tree.WellFormed → ∀ path ∈ files,
    (result.skipped.map SkippedFile.path).count path = if (tree.readText path).isOk then 0 else 1
  /-- A broken file that is created adds its own failures and nothing else. -/
  created : tree.WellFormed → ∀ location bytes, tree.IsVacant location →
    String.fromUTF8? bytes = none → ∃ more after,
      (tree.put location (.file bytes)).AddsFailures settings folder files more result after

/--
A scan of a folder loses nothing.

A file is either read or skipped once, in the order of the files, and the names are those that the
files import that could be read.
They do not depend on the order in which workers finish, and a broken file that is created adds its
own failures and nothing else.
-/
theorem folder_scan_isolates_failures {tree : FileTree} {settings : Settings} {folder : String}
    {files : List String} (collected : (tree.collectFiles settings folder).value = .ok files) :
    ∃ result, (tree.folderImports settings folder).value = .ok result ∧
      tree.IsolatesFailures settings folder files result := by
  -- All that a scan tells is read from the outcome of its files, one by one.
  refine ⟨_, FileTree.folderImports_value collected, ?_⟩
  exact
    { fileCount := by simp [scanOutcome]
      skipped := tree.skipped_paths files
      complete := by
        rw [ScanResult.isComplete, List.isEmpty_iff, ← List.map_eq_nil_iff, tree.skipped_paths]
        simp [List.filter_eq_nil_iff]
      increasing := sortDistinct_increasing _
      imported := fun sorted _ => FileTree.mem_scan_value sorted
      anyOrder := fun _ complete => FileTree.scanInOrder_eq complete
      once := fun wellFormed _ listed =>
        FileTree.count_skipped_paths (wellFormed.collectFiles_spec collected).1 listed
      created := by
        intro wellFormed location bytes vacant unreadable
        obtain ⟨more, again, value, failures, joined, skipped⟩ :=
          wellFormed.scan_put collected vacant unreadable
        exact ⟨more, _, again, FileTree.folderImports_value again, value,
          ⟨failures, joined, skipped⟩, fun path one => exists_single_failure joined skipped one⟩ }

/-- A folder with a source and a file that is no text. -/
def mixedFolder : FileTree :=
  -- The broken file is met first.
  { entries := [
      (["app"], .directory),
      (["app", "broken.php"], .file ⟨#[0xff]⟩),
      (["app", "mail.php"], .file "<?php use Model\\User; use Mail;".toUTF8)] }

/-- The same folder with one more broken file. -/
def worseFolder : FileTree :=
  -- A character is cut short.
  mixedFolder.put ["app", "worse.php"] (.file ⟨#[0xc3]⟩)

/-- One more broken file in the folder adds one failure and changes no name. -/
theorem folder_scan_isolates_failures_mixed :
    (mixedFolder.collectFiles {} "app").value = .ok ["app/broken.php", "app/mail.php"] ∧
    ∃ result, (mixedFolder.folderImports {} "app").value = .ok result ∧
      mixedFolder.scanInOrder ["app/broken.php", "app/mail.php"] [1, 0] = result ∧
      ∃ after message, (worseFolder.folderImports {} "app").value = .ok after ∧
        after.value = result.value ∧
        after.skipped.Perm (⟨"app/worse.php", message⟩ :: result.skipped) := by
  -- The two folders differ by one file, which the walk of the second meets.
  have collected : (mixedFolder.collectFiles {} "app").value =
      .ok ["app/broken.php", "app/mail.php"] := by
    have walked : mixedFolder.walk true "app" = [Visit.mk "app/broken.php" ["broken.php"],
        Visit.mk "app/mail.php" ["mail.php"]].map .ok := by cbv
    refine FileTree.collectFiles_eq_ok_iff.mpr (.inr ⟨by cbv, _, walked, ?_⟩)
    exact (List.mergeSort_of_pairwise (by decide +kernel)).symm
  have grown : (worseFolder.collectFiles {} "app").value =
      .ok ["app/broken.php", "app/mail.php", "app/worse.php"] := by
    have walked : worseFolder.walk true "app" = [Visit.mk "app/broken.php" ["broken.php"],
        Visit.mk "app/mail.php" ["mail.php"], Visit.mk "app/worse.php" ["worse.php"]].map .ok := by
      cbv
    refine FileTree.collectFiles_eq_ok_iff.mpr (.inr ⟨by cbv, _, walked, ?_⟩)
    exact (List.mergeSort_of_pairwise (by decide +kernel)).symm
  -- The first tree is sound, and nothing stands where the file is to be put.
  have wellFormed : mixedFolder.WellFormed := by
    refine ⟨by decide +kernel, by decide +kernel, fun location listed => ?_⟩
    fin_cases listed <;> exact ⟨by simp, rfl⟩
  have vacant : mixedFolder.IsVacant ["app", "worse.php"] := by
    refine ⟨by decide +kernel, rfl, fun count shorter => ?_⟩
    simp only [List.length_cons, List.length_nil] at shorter
    interval_cases count <;> exact .inr rfl
  -- Reading in the other order gives the same, and the new file adds the one failure.
  obtain ⟨result, found, isolated⟩ := folder_scan_isolates_failures collected
  obtain ⟨more, after, added⟩ :=
    isolated.created wellFormed ["app", "worse.php"] ⟨#[0xc3]⟩ vacant (by decide +kernel)
  obtain rfl : _ = more := Except.ok.inj (grown.symm.trans added.collected)
  obtain ⟨message, failures⟩ := added.single "app/worse.php" (by decide +kernel)
  exact ⟨collected, result, found, isolated.anyOrder _ (by decide), after, message, added.scanned,
    added.sameNames, failures⟩

end PhpOutline
