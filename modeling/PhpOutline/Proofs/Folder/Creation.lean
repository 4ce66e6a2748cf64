import Mathlib
import PhpOutline.Proofs.Folder.Scan
import PhpOutline.Proofs.Folder.Selection

/-!
Files that are created below a folder without links.

Only a link gives a file a second path.
So without links a new file is scanned once if the settings select its names, and never otherwise.
-/

namespace PhpOutline

namespace FileTree

/-- A tree in which nothing is a link. -/
def HasNoLink (tree : FileTree) : Prop :=
  -- Every name then leads to what stands under it.
  ∀ location target, tree.get? location ≠ some (.link target)

variable {tree grown : FileTree} {settings : Settings} {root : String} {files : List String}
  {start place location : Location} {names : List String} {bytes : ByteArray}

/-- Without links every directory is sound. -/
theorem HasNoLink.soundBelow (unlinked : tree.HasNoLink) (start : Location) :
    tree.SoundBelow start :=
  -- Every link leads deeper, for there is none.
  soundBelow_of_deeper (fun _ _ target linked => absurd linked (unlinked _ target)) start

/-- Without links, names lead to the place that they spell out. -/
theorem HasNoLink.eq_append_of_descend? (unlinked : tree.HasNoLink)
    (reached : tree.descend? start names = some place) : place = start ++ names := by
  -- Each name is spelled out by the location that it leads to, so the induction is on the names.
  induction names generalizing start with
  | nil =>
    obtain rfl : start = place := by simpa [descend?] using reached
    simp
  | cons name rest ih =>
    rw [descend?_cons, Option.bind_eq_some_iff] at reached
    obtain ⟨next, entered, further⟩ := reached
    rcases enter?_eq_some_iff.mp entered with ⟨_, -, -, rfl⟩ | ⟨target, linked, -⟩
    · rw [ih further, List.append_assoc, List.singleton_append]
    · exact absurd linked (unlinked _ target)

/-- Without links, names lead to whatever stands at the place that they spell out. -/
theorem HasNoLink.descend?_eq_some (unlinked : tree.HasNoLink) (wellFormed : tree.WellFormed)
    {entry : FileEntry} (there : tree.get? (start ++ names) = some entry) :
    tree.descend? start names = some (start ++ names) := by
  induction names generalizing start with
  | nil => simp [descend?]
  | cons name rest ih =>
    rw [← List.singleton_append, ← List.append_assoc] at there ⊢
    -- What stands further down stands below directories, so each name leads on.
    have standing : ∃ inner, tree.get? (start ++ [name]) = some inner := by
      by_cases last : rest = []
      · exact ⟨entry, by simpa [last] using there⟩
      · exact ⟨_, wellFormed.directory_above last there⟩
    obtain ⟨inner, stands⟩ := standing
    have entered : tree.enter? start name = some (start ++ [name]) := by
      refine enter?_eq_some_iff.mpr (.inl ⟨inner, stands, fun target linked => ?_, rfl⟩)
      exact unlinked _ target (linked ▸ stands)
    rw [descend?_append, descend?_cons, entered]
    exact ih there

/-- Without links, names lead to a file exactly when they spell out its location. -/
theorem HasNoLink.hasFile_iff (unlinked : tree.HasNoLink) (wellFormed : tree.WellFormed) :
    tree.HasFile start names ↔ ∃ bytes, tree.get? (start ++ names) = some (.file bytes) := by
  -- Without a link the names lead to the location they spell.
  constructor
  · rintro ⟨place, bytes, reached, file⟩
    rw [unlinked.eq_append_of_descend? reached] at file
    exact ⟨bytes, file⟩
  · rintro ⟨bytes, file⟩
    exact ⟨_, bytes, unlinked.descend?_eq_some wellFormed file, file⟩

/-- No link is created with a file. -/
theorem Grows.hasNoLink (grows : tree.Grows grown location bytes) (unlinked : tree.HasNoLink) :
    grown.HasNoLink := by
  intro place target linked
  cases before : tree.get? place with
  | some entry =>
    -- What stood there before stands there still, and it was no link.
    rw [grows.old place entry before] at linked
    exact unlinked place target (before.trans linked)
  | none =>
    rcases grows.new place _ before linked with directory | ⟨-, file⟩
    · simp at directory
    · simp at file

/-- Without links, the names that lead to a file are those from before and those of the new one. -/
theorem HasNoLink.hasFile_put_iff (unlinked : tree.HasNoLink) (wellFormed : tree.WellFormed)
    (vacant : tree.IsVacant location) :
    (tree.put location (.file bytes)).HasFile start names ↔
      tree.HasFile start names ∨ start ++ names = location := by
  have grows := grows_put vacant bytes
  rw [(grows.hasNoLink unlinked).hasFile_iff (wellFormed.put vacant bytes),
    unlinked.hasFile_iff wellFormed]
  constructor
  · rintro ⟨content, file⟩
    -- Either a file stood there before, or nothing did and the file is the new one.
    cases before : tree.get? (start ++ names) with
    | some entry =>
      rw [grows.old _ entry before] at file
      exact .inl ⟨content, file⟩
    | none =>
      rcases grows.new _ _ before file with directory | ⟨same, -⟩
      · simp at directory
      · exact .inr same
  · rintro (⟨content, file⟩ | same)
    · exact ⟨content, grows.old _ _ file⟩
    · rw [same]
      exact ⟨bytes, grows.created⟩

/--
Without links, a file that is created below the start of a scan is scanned once if its names are
selected, and otherwise the scanned files stay the same.
-/
theorem WellFormed.collectFiles_put (wellFormed : tree.WellFormed) (unlinked : tree.HasNoLink)
    (located : tree.locate root = .ok start) (here : tree.get? start = some .directory)
    (vacant : tree.IsVacant (start ++ names)) (bytes : ByteArray)
    (collected : (tree.collectFiles settings root).value = .ok files) :
    ∃ more, ((tree.put (start ++ names) (.file bytes)).collectFiles settings root).value =
        .ok more ∧
      (settings.Selects names → more.Perm (names.foldl joinPath root :: files)) ∧
      (¬settings.Selects names → more = files) := by
  have grows := grows_put vacant bytes
  have further := wellFormed.put vacant bytes
  have again : (tree.put (start ++ names) (.file bytes)).locate root = .ok start := by
    rw [grows.locate_eq (by simp [located]), located]
  -- Both trees are sound, so their files are those that some selected names lead to.
  obtain ⟨_, whole, selected⟩ :=
    (unlinked.soundBelow start).exists_collectFiles wellFormed located here settings
  obtain rfl := Except.ok.inj (collected.symm.trans whole)
  obtain ⟨more, gathered, chosen⟩ :=
    ((grows.hasNoLink unlinked).soundBelow start).exists_collectFiles further again
      (grows.old _ _ here) settings
  have nonempty := (wellFormed.stands_of_locate located).1
  have member (path : String) : path ∈ more ↔
      path ∈ files ∨ settings.Selects names ∧ path = names.foldl joinPath root := by
    rw [chosen, selected]
    simp only [unlinked.hasFile_put_iff wellFormed vacant, List.append_cancel_left_eq]
    grind
  refine ⟨more, gathered, fun selects => ?_, fun ignored => ?_⟩
  · -- The path is new, for its names are the only ones that spell it and nothing stood there.
    have fresh : names.foldl joinPath root ∉ files := by
      intro listed
      obtain ⟨others, file, -, same⟩ := (selected _).mp listed
      have valid : ∀ name ∈ names, IsFileName name := fun name inside =>
        vacant.named name (List.mem_append_right start inside)
      obtain rfl := foldl_joinPath_inj nonempty valid (wellFormed.isFileName_of_hasFile file)
        (congrArg pathComponents same)
      obtain ⟨content, stands⟩ := (unlinked.hasFile_iff wellFormed).mp file
      simp [vacant.absent] at stands
    have distinct := (wellFormed.collectFiles_spec collected).1
    rw [List.perm_ext_iff_of_nodup (further.collectFiles_spec gathered).1
      (List.nodup_cons.mpr ⟨fresh, distinct⟩)]
    intro path
    rw [member, List.mem_cons]
    tauto
  · -- Both lists are in strict order.
    refine (further.collectFiles_increasing gathered).eq_of_mem_iff
      (wellFormed.collectFiles_increasing collected) fun path => ?_
    rw [member]
    tauto

/-- Without links, a broken file that is created where the settings select it fails once. -/
theorem WellFormed.folderImports_put (wellFormed : tree.WellFormed) (unlinked : tree.HasNoLink)
    (located : tree.locate root = .ok start) (here : tree.get? start = some .directory)
    (vacant : tree.IsVacant (start ++ names)) (unreadable : String.fromUTF8? bytes = none)
    (selects : settings.Selects names) :
    ∃ before after message, (tree.folderImports settings root).value = .ok before ∧
      ((tree.put (start ++ names) (.file bytes)).folderImports settings root).value = .ok after ∧
      after.value = before.value ∧
      after.skipped.Perm (⟨names.foldl joinPath root, message⟩ :: before.skipped) := by
  obtain ⟨files, collected, -⟩ :=
    (unlinked.soundBelow start).exists_collectFiles wellFormed located here settings
  -- The failures are one for each new path, and there is one new path.
  obtain ⟨more, again, value, failures, joined, skipped⟩ :=
    wellFormed.scan_put collected vacant unreadable
  obtain ⟨others, gathered, once, -⟩ :=
    wellFormed.collectFiles_put unlinked located here vacant bytes collected
  obtain rfl := Except.ok.inj (again.symm.trans gathered)
  obtain ⟨message, single⟩ := exists_single_failure joined skipped (once selects)
  exact ⟨_, _, message, folderImports_value collected, folderImports_value again, value, single⟩

end FileTree

end PhpOutline
