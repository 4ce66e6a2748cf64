import Mathlib
import PhpOutline.Proofs.FileTree.Removal

/-!
What names lead to below a directory.

Each name leads to one place, with links followed.
Where every link leads somewhere and none leads back, a walk meets exactly the files that some names
lead to, and it leaves out exactly those with a hidden name on the way.
-/

namespace PhpOutline

namespace FileTree

/-- Where a name in a directory leads, with links followed. -/
def enter? (tree : FileTree) (location : Location) (name : String) : Option Location :=
  -- What is no link stands at the name itself.
  match tree.get? (location ++ [name]) with
  | none => none
  | some (.link _) => (tree.follow linkLimit location [name]).toOption
  | some _ => some (location ++ [name])

/-- Where names lead from a directory, each from the place that the one before leads to. -/
def descend? (tree : FileTree) (location : Location) (names : List String) : Option Location :=
  -- Without names it stays where it is.
  names.foldlM tree.enter? location

/-- A file that names lead to from a directory. -/
def HasFile (tree : FileTree) (location : Location) (names : List String) : Prop :=
  -- The last name may be that of a link.
  ∃ place bytes, tree.descend? location names = some place ∧ tree.get? place = some (.file bytes)

/-- A directory below which every link leads somewhere, and none back to where it was reached. -/
structure SoundBelow (tree : FileTree) (start : Location) : Prop where
  linked : ∀ names place name target, tree.descend? start names = some place →
    tree.get? (place ++ [name]) = some (.link target) →
    ∃ next, tree.follow linkLimit place [name] = .ok next
  /-- No names lead from a place to the place itself. -/
  acyclic : ∀ names place further, tree.descend? start names = some place →
    tree.descend? place further = some place → further = []

variable {tree : FileTree} {start location next : Location} {name : String} {names : List String}

/-- Names lead on from where the names before them lead. -/
theorem descend?_append (tree : FileTree) (location : Location) (front back : List String) :
    tree.descend? location (front ++ back) =
      (tree.descend? location front).bind (tree.descend? · back) := by
  rw [descend?, List.foldlM_append]
  rfl

/-- The first name leads to the place from which the others lead on. -/
theorem descend?_cons (tree : FileTree) (location : Location) (name : String)
    (names : List String) :
    tree.descend? location (name :: names) =
      (tree.enter? location name).bind (tree.descend? · names) := by
  rw [descend?, List.foldlM_cons]
  rfl

/-- A name that leads on from where others lead lengthens their way. -/
theorem descend?_concat (before : tree.descend? start names = some location)
    (entered : tree.enter? location name = some next) :
    tree.descend? start (names ++ [name]) = some next := by
  rw [descend?_append, before, Option.bind_some, descend?_cons, entered]
  rfl

/-- A name leads to what stands under it, or to where the link leads that stands there. -/
theorem enter?_eq_some_iff :
    tree.enter? location name = some next ↔
      (∃ entry, tree.get? (location ++ [name]) = some entry ∧
        (∀ target, entry ≠ .link target) ∧ next = location ++ [name]) ∨
      ∃ target, tree.get? (location ++ [name]) = some (.link target) ∧
        tree.follow linkLimit location [name] = .ok next := by
  -- Only a link is followed; every other entry is entered where it stands.
  rw [enter?]
  cases tree.get? (location ++ [name]) with
  | none => simp
  | some entry =>
    cases entry with
    | link target =>
      cases tree.follow linkLimit location [name] <;> simp [Except.toOption]
    | _ => simp [eq_comm]

/-- Something stands under a name that leads on. -/
theorem mem_names_of_enter? (entered : tree.enter? location name = some next) :
    name ∈ tree.names location := by
  -- Both ways to enter a name start from its entry.
  rw [mem_names_iff_get?]
  rcases enter?_eq_some_iff.mp entered with ⟨entry, here, -⟩ | ⟨target, here, -⟩
  · exact ⟨entry, here⟩
  · exact ⟨_, here⟩

/-- What a name leads to is no link. -/
theorem WellFormed.stands_of_enter? (wellFormed : tree.WellFormed)
    (entered : tree.enter? location name = some next) : tree.Stands next := by
  -- An entry that is no link stands, and following a link ends at one that does.
  rcases enter?_eq_some_iff.mp entered with ⟨entry, here, plain, rfl⟩ | ⟨target, -, followed⟩
  · exact ⟨entry, here, plain⟩
  · exact wellFormed.stands_of_follow (by simp) followed

/-- Only a directory has names that lead on. -/
theorem WellFormed.directory_of_enter? (wellFormed : tree.WellFormed)
    (entered : tree.enter? location name = some next) :
    tree.get? location = some .directory := by
  obtain ⟨entry, here⟩ := mem_names_iff_get?.mp (mem_names_of_enter? entered)
  exact wellFormed.directory_above (by simp) here

/-- Names that lead on are those of entries. -/
theorem WellFormed.isFileName_of_descend? (wellFormed : tree.WellFormed)
    (reached : tree.descend? location names = some next) : ∀ name ∈ names, IsFileName name := by
  -- Name by name down the path: each is a name of its directory.
  induction names generalizing location with
  | nil => simp
  | cons name rest ih =>
    rw [descend?_cons, Option.bind_eq_some_iff] at reached
    obtain ⟨place, entered, further⟩ := reached
    have own := wellFormed.isFileName (mem_names_of_enter? entered)
    exact List.forall_mem_cons.mpr ⟨own, ih further⟩

/-- Names that lead to a file are those of entries. -/
theorem WellFormed.isFileName_of_hasFile (wellFormed : tree.WellFormed)
    (file : tree.HasFile location names) : ∀ name ∈ names, IsFileName name := by
  obtain ⟨place, bytes, reached, -⟩ := file
  exact wellFormed.isFileName_of_descend? reached

/-- A name leads on exactly where something stands under it. -/
theorem SoundBelow.mem_names_iff (sound : tree.SoundBelow start)
    (reached : tree.descend? start names = some location) :
    name ∈ tree.names location ↔ ∃ next, tree.enter? location name = some next := by
  -- Each name has an entry, and what is to be shown is that a link leads somewhere.
  refine ⟨fun listed => ?_, fun ⟨next, entered⟩ => mem_names_of_enter? entered⟩
  obtain ⟨entry, here⟩ := mem_names_iff_get?.mp listed
  by_cases linked : ∃ target, entry = .link target
  · obtain ⟨target, rfl⟩ := linked
    obtain ⟨next, followed⟩ := sound.linked names location name target reached here
    exact ⟨next, enter?_eq_some_iff.mpr (.inr ⟨target, here, followed⟩)⟩
  · exact ⟨_, enter?_eq_some_iff.mpr (.inl ⟨entry, here, not_exists.mp linked, rfl⟩)⟩

/-- Where every link leads deeper than its directory, names lead deeper and deeper. -/
theorem length_descend? (deeper : ∀ place name target,
      tree.get? (place ++ [name]) = some (.link target) →
      ∃ next, tree.follow linkLimit place [name] = .ok next ∧ place.length < next.length)
    (reached : tree.descend? location names = some next) :
    location.length + names.length ≤ next.length := by
  induction names generalizing location with
  | nil =>
    obtain rfl : location = next := by simpa [descend?] using reached
    simp
  | cons name rest ih =>
    rw [descend?_cons, Option.bind_eq_some_iff] at reached
    obtain ⟨place, entered, further⟩ := reached
    -- A name that is no link leads one step down, and a link at least as far.
    have step : location.length < place.length := by
      rcases enter?_eq_some_iff.mp entered with ⟨_, -, -, rfl⟩ | ⟨target, here, followed⟩
      · simp
      · obtain ⟨there, led, down⟩ := deeper location name target here
        obtain rfl := Except.ok.inj (led.symm.trans followed)
        exact down
    have below := ih further
    rw [List.length_cons]
    omega

/-- A tree is sound below every directory if every link leads deeper than its own directory. -/
theorem soundBelow_of_deeper (deeper : ∀ place name target,
      tree.get? (place ++ [name]) = some (.link target) →
      ∃ next, tree.follow linkLimit place [name] = .ok next ∧ place.length < next.length)
    (start : Location) : tree.SoundBelow start where
  linked _ place name target _ here := by
    -- Each link leads somewhere.
    obtain ⟨next, followed, -⟩ := deeper place name target here
    exact ⟨next, followed⟩
  -- A path back to its start would be both as long as it and longer, save the empty one.
  acyclic _ place further _ back := by
    have longer := length_descend? deeper back
    exact List.length_eq_zero_iff.mp (by omega)

section Walks

variable {skipHidden : Bool} {outer : List OpenDirectory} {directory : OpenDirectory}

/-- Where a name leads to no directory that is open, a walk finds what stands there. -/
theorem meet_of_enter? (entered : tree.enter? directory.location name = some next)
    (fresh : openAt? (directory :: outer) next = none) :
    tree.meet skipHidden outer directory name =
      if skipHidden && isHiddenName name then .nothing
      else match tree.get? next with
        | some (.file _) => .file
        | some .directory => .inner next
        | _ => .nothing := by
  -- The two ways to enter a name: what stands there itself, and what a link leads to.
  rw [meet]
  rcases enter?_eq_some_iff.mp entered with ⟨entry, here, plain, rfl⟩ | ⟨target, here, followed⟩
  · cases entry with
    | link target => exact absurd rfl (plain target)
    | _ => simp [here]
  · cases there : tree.get? next with
    | none => simp [here, followed, there]
    | some entry => cases entry <;> simp [here, followed, there, fresh]

/-- Open directories from which names lead to a place. -/
def LeadHere (tree : FileTree) (start : Location) (opened : List OpenDirectory)
    (location : Location) : Prop :=
  -- Each of them was reached from the start itself.
  ∀ directory ∈ opened, ∃ before further,
    tree.descend? start before = some directory.location ∧
      tree.descend? directory.location further = some location

/-- A walk that goes on by a name goes on from all open directories. -/
theorem LeadHere.enter (lead : tree.LeadHere start (directory :: outer) directory.location)
    (entered : tree.enter? directory.location name = some next) (path : String) :
    tree.LeadHere start (⟨next, path⟩ :: directory :: outer) next := by
  rw [LeadHere, List.forall_mem_cons]
  constructor
  · -- From the directory the name leads to the place in one step.
    obtain ⟨before, -, reached, -⟩ := lead directory (by simp)
    exact ⟨before ++ [name], [], descend?_concat reached entered, rfl⟩
  · -- From every directory further out the way gets one step longer.
    intro ancestor opened
    obtain ⟨before, further, reached, leads⟩ := lead ancestor opened
    exact ⟨before, further ++ [name], reached, descend?_concat leads entered⟩

/-- Where no link leads back, no name leads to an open directory. -/
theorem SoundBelow.fresh (sound : tree.SoundBelow start)
    (lead : tree.LeadHere start (directory :: outer) directory.location)
    (entered : tree.enter? directory.location name = some next) :
    openAt? (directory :: outer) next = none := by
  rw [openAt?, List.find?_eq_none]
  intro ancestor opened same
  obtain ⟨before, further, reached, leads⟩ := lead ancestor opened
  -- The name would lead from the ancestor back to it.
  rw [← beq_iff_eq.mp same] at entered
  simpa using sound.acyclic before _ (further ++ [name]) reached (descend?_concat leads entered)

/-- From a directory a file is reached by a first name and others. -/
theorem hasFile_iff (here : tree.get? location = some .directory) :
    tree.HasFile location names ↔ ∃ name rest next, names = name :: rest ∧
      tree.enter? location name = some next ∧ tree.HasFile next rest := by
  -- The empty path leads to the directory, which is no file; others enter by their first name.
  cases names with
  | nil => simp [HasFile, descend?, here]
  | cons name rest =>
    simp only [HasFile, descend?_cons, Option.bind_eq_some_iff, List.cons.injEq]
    constructor
    · rintro ⟨place, bytes, ⟨next, entered, leads⟩, file⟩
      exact ⟨name, rest, next, ⟨rfl, rfl⟩, entered, place, bytes, leads, file⟩
    · rintro ⟨_, _, next, ⟨rfl, rfl⟩, entered, place, bytes, leads, file⟩
      exact ⟨place, bytes, ⟨next, entered, leads⟩, file⟩

/-- No name leads on from a file. -/
theorem WellFormed.hasFile_of_file (wellFormed : tree.WellFormed) {bytes : ByteArray}
    (file : tree.get? location = some (.file bytes)) :
    tree.HasFile location names ↔ names = [] := by
  -- Nothing is entered from a file.
  cases names with
  | nil => simp [HasFile, descend?, file]
  | cons name rest =>
    simp only [HasFile, descend?_cons, Option.bind_eq_some_iff, reduceCtorEq, iff_false]
    rintro ⟨place, bytes, ⟨next, entered, -⟩, -⟩
    simp [wellFormed.directory_of_enter? entered] at file

/-- A result that is the visit of a file, with no hidden name on the way if those are left out. -/
def ShowsFile (tree : FileTree) (skipHidden : Bool) (directory : OpenDirectory)
    (names : List String) (result : Except WalkError Visit) : Prop :=
  -- The names behind those of the directory lead to the file.
  ∃ tail, tree.HasFile directory.location tail ∧
    (∀ name ∈ tail, (skipHidden && isHiddenName name) = false) ∧
    result = .ok ⟨tail.foldl joinPath directory.path, names ++ tail⟩

/-- What is shown from a directory is shown from what one of its names leads to. -/
theorem showsFile_iff_of_directory (here : tree.get? directory.location = some .directory)
    {result : Except WalkError Visit} :
    tree.ShowsFile skipHidden directory names result ↔
      ∃ name next, tree.enter? directory.location name = some next ∧
        (skipHidden && isHiddenName name) = false ∧
        tree.ShowsFile skipHidden ⟨next, joinPath directory.path name⟩ (names ++ [name])
          result := by
  -- The first name is found in the directory, and the others go on from its place.
  constructor
  · rintro ⟨tail, file, shown, rfl⟩
    obtain ⟨name, rest, next, rfl, entered, file⟩ := (hasFile_iff here).mp file
    obtain ⟨own, others⟩ := List.forall_mem_cons.mp shown
    exact ⟨name, next, entered, own, rest, file, others, by simp⟩
  · rintro ⟨name, next, entered, own, rest, file, others, rfl⟩
    refine ⟨name :: rest, (hasFile_iff here).mpr ⟨name, rest, next, rfl, entered, file⟩, ?_, ?_⟩
    · exact List.forall_mem_cons.mpr ⟨own, others⟩
    · simp

/-- From a file nothing but the file is shown. -/
theorem WellFormed.showsFile_iff_of_file (wellFormed : tree.WellFormed) {bytes : ByteArray}
    (file : tree.get? location = some (.file bytes)) {path : String}
    {result : Except WalkError Visit} :
    tree.ShowsFile skipHidden ⟨location, path⟩ names result ↔ result = .ok ⟨path, names⟩ := by
  simp [ShowsFile, wellFormed.hasFile_of_file file]

/-- A walk finds at a name what is shown from the place that the name leads to. -/
theorem WellFormed.mem_found_iff (wellFormed : tree.WellFormed)
    (entered : tree.enter? directory.location name = some next)
    (fresh : openAt? (directory :: outer) next = none) {result : Except WalkError Visit}
    (below : tree.get? next = some .directory →
      tree.meet skipHidden outer directory name = .inner next →
      (result ∈ tree.walkBelow skipHidden (directory :: outer)
          ⟨next, joinPath directory.path name⟩ (names ++ [name]) ↔
        tree.ShowsFile skipHidden ⟨next, joinPath directory.path name⟩ (names ++ [name]) result)) :
    result ∈ tree.found skipHidden outer directory names name ↔
      (skipHidden && isHiddenName name) = false ∧
        tree.ShowsFile skipHidden ⟨next, joinPath directory.path name⟩ (names ++ [name])
          result := by
  have met : tree.meet skipHidden outer directory name = _ := meet_of_enter? entered fresh
  -- A hidden name is left out whatever it leads to.
  cases hidden : skipHidden && isHiddenName name with
  | true => simp [found, met, hidden]
  | false =>
    obtain ⟨entry, there, plain⟩ := wellFormed.stands_of_enter? entered
    rw [hidden, there] at met
    cases entry with
    | file bytes => simp [found, met, wellFormed.showsFile_iff_of_file there]
    | directory => simp [found, met, below there met]
    | link target => exact absurd rfl (plain target)

/-- A walk through a sound directory does not break off, and it meets what is shown from there. -/
theorem SoundBelow.mem_walkBelow_iff (sound : tree.SoundBelow start) (wellFormed : tree.WellFormed)
    (here : tree.get? directory.location = some .directory)
    (lead : tree.LeadHere start (directory :: outer) directory.location)
    {result : Except WalkError Visit} :
    result ∈ tree.walkBelow skipHidden outer directory names ↔
      tree.ShowsFile skipHidden directory names result := by
  -- The walk only enters what is not open, so the induction is that of the walk itself.
  induction outer, directory, names using walkBelow_induction tree skipHidden with
  | step outer directory names ih =>
    obtain ⟨before, -, reached, -⟩ := lead directory (by simp)
    have each : ∀ name next, tree.enter? directory.location name = some next →
        (result ∈ tree.found skipHidden outer directory names name ↔ _) :=
      fun name next entered => wellFormed.mem_found_iff entered (sound.fresh lead entered)
        fun there met => ih name next met there (lead.enter entered _)
    rw [walkBelow_eq, List.mem_flatMap, showsFile_iff_of_directory here]
    constructor
    · rintro ⟨name, listed, found⟩
      obtain ⟨next, entered⟩ := (sound.mem_names_iff reached).mp listed
      exact ⟨name, next, entered, (each name next entered).mp found⟩
    · rintro ⟨name, next, entered, shown⟩
      have listed := (sound.mem_names_iff reached).mpr ⟨next, entered⟩
      exact ⟨name, listed, (each name next entered).mpr shown⟩

end Walks

end FileTree

end PhpOutline
