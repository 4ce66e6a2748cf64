import Mathlib
import PhpOutline.Proofs.FileTree.Descent
import PhpOutline.Proofs.Folder.Collect

/-!
Which files a scan takes.

Where links do no harm, whether a file is taken depends on nothing but the names that lead to it.
So leaving out hidden directories on the way is the same as leaving out paths with hidden names, and
stricter settings take no other files.
-/

namespace PhpOutline

/-- What settings ask of the names that lead to a file from the start of a scan. -/
structure Settings.Selects (settings : Settings) (names : List String) : Prop where
  scanned : ∃ last extension, names.getLast? = some last ∧ nameExtension? last = some extension ∧
    lowerAscii extension ∈ settings.scannedExtensions
  /-- A text that is no glob pattern leaves nothing out. -/
  included : ∀ pattern ∈ settings.excludedPaths, ∀ glob, Glob.parse pattern = .ok glob →
    glob.accepts ("/".intercalate names) = false
  shown : settings.skipHidden = true → ∀ name ∈ names, isHiddenName name = false

/-- Settings that take no file that others do not take. -/
structure Settings.IsStricter (stricter settings : Settings) : Prop where
  extensions : stricter.extensions = settings.extensions
  /-- Further patterns may stand anywhere. -/
  excludedPaths : settings.excludedPaths ⊆ stricter.excludedPaths
  skipHidden : settings.skipHidden = true → stricter.skipHidden = true

/-- The same settings with hidden files and directories left in. -/
def Settings.withHidden (settings : Settings) : Settings :=
  -- Nothing else changes.
  { settings with skipHidden? := some false }

/-- A path that stands before another one. -/
def PathBefore (left right : String) : Prop :=
  -- Two spellings of one list of components stand in no order.
  pathOrdered left right = true ∧ pathComponents left ≠ pathComponents right

/-- Whether a path has no hidden name behind the components of another. -/
def isShownBelow (root path : String) : Bool :=
  -- The names in front may be hidden.
  ((pathComponents path).drop (pathComponents root).length).all fun component =>
    match component with
    | .name text => !isHiddenName text
    | _ => true

instance : Std.Irrefl PathBefore where
  irrefl _ before := before.2 rfl

instance : Std.Antisymm PathBefore where
  antisymm _ _ before behind :=
    absurd (pathComponents_eq_of_pathOrdered before.1 behind.1) before.2

section Names

variable {settings stricter : Settings} {root : String} {names : List String}

/-- The extension of a path that has grown by names is that of the last name. -/
theorem pathExtension?_foldl_joinPath (nonempty : root ≠ "") (grown : names ≠ [])
    (valid : ∀ name ∈ names, IsFileName name) :
    pathExtension? (names.foldl joinPath root) = names.getLast?.bind nameExtension? := by
  -- The last component of the path is the last name joined on.
  obtain ⟨front, last, rfl⟩ := List.eq_nil_or_concat' names |>.resolve_left grown
  rw [pathExtension?, fileName?, pathComponents_foldl_joinPath nonempty valid]
  simp

/-- A path that has grown by names is scanned for the extension of the last name. -/
theorem Settings.scans_foldl_joinPath_iff (nonempty : root ≠ "") (grown : names ≠ [])
    (valid : ∀ name ∈ names, IsFileName name) :
    settings.scans (names.foldl joinPath root) = true ↔
      ∃ last extension, names.getLast? = some last ∧ nameExtension? last = some extension ∧
        lowerAscii extension ∈ settings.scannedExtensions := by
  -- The extension of the path is that of the last name.
  rw [scans, pathExtension?_foldl_joinPath nonempty grown valid]
  simp only [Option.any_eq_true, Option.bind_eq_some_iff, List.contains_iff_mem]
  constructor
  · rintro ⟨extension, ⟨last, ends, own⟩, listed⟩
    exact ⟨last, extension, ends, own, listed⟩
  · rintro ⟨last, extension, ends, own, listed⟩
    exact ⟨extension, ⟨last, ends, own⟩, listed⟩

/-- A path is left in if no glob pattern among the settings accepts it. -/
theorem Settings.excludes_eq_false_iff {path : String} :
    settings.excludes path = false ↔ ∀ pattern ∈ settings.excludedPaths, ∀ glob,
      Glob.parse pattern = .ok glob → glob.accepts path = false := by
  -- A pattern that does not parse excludes nothing.
  rw [excludes, List.any_eq_false]
  refine forall₂_congr fun pattern listed => ?_
  cases Glob.parse pattern <;> simp

/-- Below a path, the names that it has grown by are looked at. -/
theorem isShownBelow_foldl_joinPath (nonempty : root ≠ "")
    (valid : ∀ name ∈ names, IsFileName name) :
    isShownBelow root (names.foldl joinPath root) = true ↔
      ∀ name ∈ names, isHiddenName name = false := by
  rw [isShownBelow, pathComponents_foldl_joinPath nonempty valid, List.drop_left]
  simp

/-- Names that stricter settings select are selected by the others. -/
theorem Settings.IsStricter.selects (strict : stricter.IsStricter settings)
    (selects : stricter.Selects names) : settings.Selects names where
  scanned := by
    -- Both read the same extensions.
    obtain ⟨last, extension, ends, own, listed⟩ := selects.scanned
    rw [scannedExtensions, strict.extensions] at listed
    exact ⟨last, extension, ends, own, listed⟩
  included pattern listed := selects.included pattern (strict.excludedPaths listed)
  shown skips := selects.shown (strict.skipHidden skips)

/-- With hidden files left out, names are selected as otherwise, but only if none is hidden. -/
theorem Settings.selects_iff_withHidden (skips : settings.skipHidden = true) :
    settings.Selects names ↔
      settings.withHidden.Selects names ∧ ∀ name ∈ names, isHiddenName name = false := by
  -- Hidden names are the one thing the two settings differ about.
  constructor
  · intro selects
    exact ⟨⟨selects.scanned, selects.included, fun keeps => absurd keeps Bool.false_ne_true⟩,
      selects.shown skips⟩
  · rintro ⟨selects, shown⟩
    exact ⟨selects.scanned, selects.included, fun _ => shown⟩

end Names

namespace FileTree

variable {tree : FileTree} {root : String} {start : Location} {names : List String}

/-- A walk through a sound directory does not break off, and meets what names lead to. -/
theorem SoundBelow.exists_walk (sound : tree.SoundBelow start) (wellFormed : tree.WellFormed)
    (located : tree.locate root = .ok start) (here : tree.get? start = some .directory)
    (skipHidden : Bool) :
    ∃ visits : List Visit, tree.walk skipHidden root = visits.map .ok ∧
      ∀ visit, visit ∈ visits ↔ ∃ names, tree.HasFile start names ∧
        (∀ name ∈ names, (skipHidden && isHiddenName name) = false) ∧
        visit = ⟨names.foldl joinPath root, names⟩ := by
  -- At the start nothing else is open.
  have lead : tree.LeadHere start [⟨start, root⟩] start := by
    intro directory opened
    obtain rfl := List.mem_singleton.mp opened
    exact ⟨[], [], rfl, rfl⟩
  have met (result : Except WalkError Visit) :
      result ∈ tree.walkBelow skipHidden [] ⟨start, root⟩ [] ↔
        tree.ShowsFile skipHidden ⟨start, root⟩ [] result :=
    sound.mem_walkBelow_iff wellFormed here lead
  have unbroken : ∀ result ∈ tree.walkBelow skipHidden [] ⟨start, root⟩ [],
      ∃ visit, result = .ok visit := by
    intro result listed
    obtain ⟨names, -, -, rfl⟩ := (met result).mp listed
    exact ⟨_, rfl⟩
  obtain ⟨visits, whole⟩ := exists_visits unbroken
  refine ⟨visits, by rw [walk, located, ← whole], fun visit => ?_⟩
  have listed := met (.ok visit)
  rw [whole] at listed
  simpa [ShowsFile] using listed

/-- The files below a sound directory are collected, and they are those that are selected. -/
theorem SoundBelow.exists_collectFiles (sound : tree.SoundBelow start)
    (wellFormed : tree.WellFormed) (located : tree.locate root = .ok start)
    (here : tree.get? start = some .directory) (settings : Settings) :
    ∃ files, (tree.collectFiles settings root).value = .ok files ∧ ∀ path, path ∈ files ↔
      ∃ names, tree.HasFile start names ∧ settings.Selects names ∧
        path = names.foldl joinPath root := by
  obtain ⟨visits, walked, met⟩ :=
    sound.exists_walk wellFormed located here settings.skipHidden
  have several : tree.isFile root = false := by simp [isFile, located, here]
  -- The start is no file, so a file has a name below it, and only that name has the extension.
  have named : ∀ names, tree.HasFile start names →
      root ≠ "" ∧ names ≠ [] ∧ ∀ name ∈ names, IsFileName name := by
    intro names file
    obtain ⟨name, rest, next, rfl, -⟩ := (hasFile_iff here).mp file
    exact ⟨(wellFormed.stands_of_locate located).1, by simp,
      wellFormed.isFileName_of_hasFile file⟩
  refine ⟨_, collectFiles_eq_ok_iff.mpr (.inr ⟨several, visits, walked, rfl⟩), fun path => ?_⟩
  rw [Settings.mem_pathsOf_iff]
  constructor
  · rintro ⟨visit, listed, included, scanned, rfl⟩
    obtain ⟨names, file, visible, rfl⟩ := (met visit).mp listed
    obtain ⟨nonempty, grown, valid⟩ := named names file
    refine ⟨names, file, ⟨?_, ?_, ?_⟩, rfl⟩
    · exact (Settings.scans_foldl_joinPath_iff nonempty grown valid).mp scanned
    · exact Settings.excludes_eq_false_iff.mp included
    · intro skips name listed
      simpa [skips] using visible name listed
  · rintro ⟨names, file, selects, rfl⟩
    obtain ⟨nonempty, grown, valid⟩ := named names file
    refine ⟨_, (met _).mpr ⟨names, file, fun name listed => ?_, rfl⟩, ?_, ?_, rfl⟩
    · cases skips : settings.skipHidden with
      | false => rfl
      | true => simpa using selects.shown skips name listed
    · exact Settings.excludes_eq_false_iff.mpr selects.included
    · exact (Settings.scans_foldl_joinPath_iff nonempty grown valid).mpr selects.scanned

/-- Collected files are in strict order. -/
theorem WellFormed.collectFiles_increasing (wellFormed : tree.WellFormed) {settings : Settings}
    {files : List String} (collected : (tree.collectFiles settings root).value = .ok files) :
    files.Pairwise PathBefore := by
  -- In order and distinct makes strictly ordered, as equal components mean equal paths.
  have distinct := (wellFormed.collectFiles_spec collected).1
  refine ((collectFiles_ordered collected).and distinct).imp_of_mem ?_
  rintro left right first second ⟨ordered, apart⟩
  exact ⟨ordered, fun same =>
    apart (wellFormed.eq_of_pathComponents_eq collected first second same)⟩

end FileTree

/--
The files that a scan of a directory takes are those that its settings select by name.

Where every link below the directory leads somewhere and none leads back, the scan does not fail.
Its files are in strict order, and each is the path of names that lead to a file and are selected.
Leaving out hidden directories on the way is leaving out paths with hidden names from those of all
files, and stricter settings only leave out files.
-/
theorem collected_files_selected {tree : FileTree} {root : String} {start : Location}
    (wellFormed : tree.WellFormed) (located : tree.locate root = .ok start)
    (directory : tree.get? start = some .directory) (sound : tree.SoundBelow start)
    (settings : Settings) :
    ∃ files, (tree.collectFiles settings root).value = .ok files ∧
      files.Pairwise PathBefore ∧
      (∀ path, path ∈ files ↔ ∃ names, tree.HasFile start names ∧ settings.Selects names ∧
        path = names.foldl joinPath root) ∧
      (settings.skipHidden = true → ∃ all,
        (tree.collectFiles settings.withHidden root).value = .ok all ∧
          files = all.filter (isShownBelow root)) ∧
      ∀ stricter : Settings, stricter.IsStricter settings → ∃ fewer,
        (tree.collectFiles stricter root).value = .ok fewer ∧ fewer.Sublist files := by
  obtain ⟨files, collected, selected⟩ :=
    sound.exists_collectFiles wellFormed located directory settings
  have increasing := wellFormed.collectFiles_increasing collected
  have nonempty := (wellFormed.stands_of_locate located).1
  refine ⟨files, collected, increasing, selected, fun skips => ?_, fun stricter strict => ?_⟩
  · obtain ⟨all, whole, every⟩ :=
      sound.exists_collectFiles wellFormed located directory settings.withHidden
    -- Lists in strict order are the same if they have the same members.
    have order := (wellFormed.collectFiles_increasing whole).filter (isShownBelow root)
    refine ⟨all, whole, increasing.eq_of_mem_iff order fun path => ?_⟩
    rw [List.mem_filter, selected, every]
    constructor
    · rintro ⟨names, file, selects, rfl⟩
      have valid := wellFormed.isFileName_of_hasFile file
      obtain ⟨still, shown⟩ := (Settings.selects_iff_withHidden skips).mp selects
      exact ⟨⟨names, file, still, rfl⟩, (isShownBelow_foldl_joinPath nonempty valid).mpr shown⟩
    · rintro ⟨⟨names, file, selects, rfl⟩, shown⟩
      have valid := wellFormed.isFileName_of_hasFile file
      refine ⟨names, file, (Settings.selects_iff_withHidden skips).mpr ⟨selects, ?_⟩, rfl⟩
      exact (isShownBelow_foldl_joinPath nonempty valid).mp shown
  · obtain ⟨fewer, again, strictly⟩ :=
      sound.exists_collectFiles wellFormed located directory stricter
    have order := wellFormed.collectFiles_increasing again
    refine ⟨fewer, again, List.sublist_of_subperm_of_pairwise ?_ order increasing⟩
    refine List.subperm_of_subset order.nodup fun path listed => ?_
    obtain ⟨names, file, selects, rfl⟩ := (strictly path).mp listed
    exact (selected _).mpr ⟨names, file, strict.selects selects, rfl⟩

/-- A hidden folder with a hidden directory and a link to a directory in it. -/
def linkedFolder : FileTree :=
  -- The link leads to the directory beside it.
  { entries := [
      ([".app"], .directory), ([".app", "linked"], .link "src"), ([".app", "src"], .directory),
      ([".app", "src", "A.php"], .file ⟨#[]⟩), ([".app", "src", "B.PHP"], .file ⟨#[]⟩),
      ([".app", ".git"], .directory), ([".app", ".git", "C.php"], .file ⟨#[]⟩)] }

/-- The folder is well-formed. -/
theorem linkedFolder_wellFormed : linkedFolder.WellFormed := by
  -- The seven locations are distinct, well named and each inside a directory.
  have locations : linkedFolder.entries.map Prod.fst =
      [[".app"], [".app", "linked"], [".app", "src"], [".app", "src", "A.php"],
       [".app", "src", "B.PHP"], [".app", ".git"], [".app", ".git", "C.php"]] := rfl
  refine ⟨?_, ?_, fun location listed => ?_⟩
  · rw [locations]
    decide
  · rw [locations]
    decide +kernel
  · fin_cases listed <;> exact ⟨by simp, rfl⟩

/-- The only link of the folder leads deeper. -/
theorem linkedFolder_soundBelow (start : Location) : linkedFolder.SoundBelow start := by
  -- The one link leads further down, so no path comes back to where it was.
  refine FileTree.soundBelow_of_deeper (fun place name target here => ?_) start
  have listed := FileTree.mem_entries_of_get? (by simp) here
  have link : place ++ [name] = [".app"] ++ ["linked"] ∧ target = "src" := by
    simpa [linkedFolder] using listed
  obtain ⟨rfl, same⟩ := List.append_inj' link.1 rfl
  obtain rfl := List.head_eq_of_cons_eq same
  exact ⟨[".app", "src"], by cbv, by simp⟩

/-- The path of the folder leads to it. -/
theorem linkedFolder_locate : linkedFolder.locate ".app" = .ok [".app"] := by
  -- The path is not empty, too long or with a zero in it, and is followed in one move.
  rw [FileTree.locate, if_neg (by decide +kernel), if_neg (by decide +kernel),
    if_neg (by decide +kernel)]
  cbv

/-- Files behind a link are taken, and neither hidden nor excluded ones are. -/
theorem collected_files_selected_linked :
    let settings : Settings := { excludedPaths := ["src/A.*"] }
    let files := [".app/linked/A.php", ".app/linked/B.PHP", ".app/src/B.PHP"]
    (linkedFolder.collectFiles settings ".app").value = .ok files ∧
      (∀ path, path ∈ files ↔ ∃ names, linkedFolder.HasFile [".app"] names ∧
        settings.Selects names ∧ path = names.foldl joinPath ".app") ∧
      ∃ all, (linkedFolder.collectFiles settings.withHidden ".app").value = .ok all ∧
        files = all.filter (isShownBelow ".app") := by
  intro settings files
  -- The root is a directory, and the walk meets each file directly and through the link.
  have several : linkedFolder.isFile ".app" = false := by
    rw [FileTree.isFile, linkedFolder_locate]
    rfl
  have walked : linkedFolder.walk true ".app" =
      [Visit.mk ".app/linked/A.php" ["linked", "A.php"],
       Visit.mk ".app/linked/B.PHP" ["linked", "B.PHP"],
       Visit.mk ".app/src/A.php" ["src", "A.php"],
       Visit.mk ".app/src/B.PHP" ["src", "B.PHP"]].map .ok := by
    cbv
  -- The setting keeps three of the four.
  have collected : (linkedFolder.collectFiles settings ".app").value = .ok files := by
    refine FileTree.collectFiles_eq_ok_iff.mpr (.inr ⟨several, _, walked, ?_⟩)
    exact (Settings.pathsOf_of_ordered (by decide +kernel) (by decide +kernel)).symm
  -- The files are collected once only, so the theorem speaks of these.
  obtain ⟨others, again, -, selected, hidden, -⟩ := collected_files_selected
    linkedFolder_wellFormed linkedFolder_locate rfl (linkedFolder_soundBelow [".app"]) settings
  obtain rfl := Except.ok.inj (collected.symm.trans again)
  exact ⟨collected, selected, hidden rfl⟩

end PhpOutline
