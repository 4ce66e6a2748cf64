import Mathlib
import PhpOutline.Proofs.Folder.ClassIndex
import PhpOutline.Proofs.MethodRecord
import PhpOutline.Proofs.Token.Shape
import PhpOutline.Proofs.Trivia.Records

/-!
Which classes of an index can be looked up.

A class is stored under the name that its file spells out, and looked up without the backslashes
at its front.
So a class is found unless its namespace starts with a backslash.
-/

namespace PhpOutline

section Source

variable {source name : String} {filter : ClassFilter}

/-- A token that may name a class starts with a letter. -/
theorem startsAtRoot_of_namesClass {index : Nat} {token : Token}
    (present : (tokenize source)[index]? = some token) (names : token.namesClass = true) :
    startsAtRoot token.text = false := by
  have cut : tokenize source = (tokenize source).take index ++
      token :: (tokenize source).drop (index + 1) := by
    rw [← drop_eq_cons_of_getElem? present, List.take_append_drop]
  have round := tokenize_round cut
  -- One rule gives both sorts of tokens, and no backslash opens a word.
  have opens : 0 < wordLength (textOf (token :: (tokenize source).drop (index + 1))).toList := by
    simp only [Token.namesClass, Bool.or_eq_true] at names
    rcases names with plain | word
    · exact (round.length_of_kind plain rfl).2.1
    · exact (round.length_of_kind word rfl).2.1
  rw [round.text] at opens
  obtain ⟨char, rest, chars⟩ := List.exists_cons_of_ne_nil round.nonempty
  rw [startsAtRoot, chars]
  rw [chars, List.cons_append, wordLength] at opens
  by_contra rooted
  obtain rfl : char = '\\' := by simpa using rooted
  simp [show opensWord '\\' = false by decide] at opens

/-- A namespace that is declared has a name. -/
theorem namespaceName?_ne_empty {tokens : List Token} {space : String}
    (declared : namespaceName? tokens = some space) : space ≠ "" := by
  -- An empty name counts as none.
  rw [namespaceName?] at declared
  split at declared
  · simp at declared
  · dsimp only at declared
    split at declared
    · simp at declared
    · rename_i nonempty
      rw [← Option.some.inj declared]
      simpa using nonempty

/-- The full name of a class starts at the root if the namespace does. -/
theorem startsAtRoot_of_mem_classNames (listed : name ∈ classNames true filter (tokenize source)) :
    startsAtRoot name = (namespaceName? (tokenize source)).any startsAtRoot := by
  have short : ∀ span ∈ classNameSpans filter (tokenize source),
      startsAtRoot (span.text (tokenize source)) = false := by
    intro span found
    obtain ⟨token, present, names, single⟩ := classNameSpans_single found
    rw [Span.text, Span.tokens_single present rfl single]
    simpa [textOf] using startsAtRoot_of_namesClass present names
  rw [classNames] at listed
  cases declared : namespaceName? (tokenize source) with
  | none =>
    obtain ⟨span, found, rfl⟩ := List.mem_map.mp (by simpa [declared] using listed)
    exact short span found
  | some space =>
    obtain ⟨span, found, rfl⟩ : ∃ span ∈ classNameSpans filter (tokenize source),
        space ++ "\\" ++ span.text (tokenize source) = name := by
      simpa [declared] using listed
    -- The namespace comes first, and it has a name.
    obtain ⟨char, rest, chars⟩ := List.exists_cons_of_ne_nil
      (fun none => namespaceName?_ne_empty declared (String.toList_eq_nil_iff.mp none))
    simp [startsAtRoot, chars]

end Source

section Lookup

variable {index : ClassIndex} {name path : String}

/-- A class is looked up under its stripped name. -/
theorem ClassIndex.Ordered.path?_eq_some_iff (ordered : index.Ordered) :
    index.path? name = some path ↔ (stripLeadingSeparators name, path) ∈ index.entries :=
  ordered.mem_entries_iff.symm

/-- A class is missing if its stripped name has no entry. -/
theorem ClassIndex.path?_eq_none_iff :
    index.path? name = none ↔ stripLeadingSeparators name ∉ index.entries.map Prod.fst := by
  -- What is looked up is the name without its leading separators.
  rw [ClassIndex.path?, List.lookup_eq_none_iff, List.mem_map]
  constructor
  · rintro absent ⟨entry, listed, same⟩
    simpa [same] using absent entry listed
  · intro absent entry listed
    rw [bne_iff_ne]
    exact fun same => absent ⟨entry, listed, same.symm⟩

/-- Only a missing class is refused as unknown when its properties are asked for. -/
theorem FileTree.classProperties_unknown_iff (later : FileTree) :
    later.classProperties index name = .error (.unknownClass name) ↔ index.path? name = none := by
  -- Reading the file fails with other failures.
  rw [classProperties, ClassIndex.require]
  cases index.path? name with
  | none => simp [bind, Except.bind]
  | some path =>
    simp only [bind, Except.bind, readTokens]
    cases later.readText path with
    | error cause => simp [Except.mapError]
    | ok source =>
      simp only [Except.mapError, pure, Except.pure]
      cases properties (tokenize source) <;> simp

/-- Reading a source fails for no other reason than that it cannot be read. -/
theorem FileTree.readTokens_eq_error {later : FileTree} {failure : Failure}
    (failed : later.readTokens path = .error failure) :
    ∃ cause, failure = .unreadableSource path cause := by
  -- Only reading the text can fail, and its cause is passed on.
  rw [readTokens] at failed
  cases unread : later.readText path with
  | ok source => simp [unread, Except.mapError, bind, Except.bind, pure, Except.pure] at failed
  | error cause =>
    exact ⟨cause, by simpa [unread, Except.mapError, bind, Except.bind, eq_comm] using failed⟩

/-- The imports by classes are those of their files, once all classes are found. -/
theorem FileTree.classImports_eq (later : FileTree) (index : ClassIndex) (classes : List String) :
    later.classImports index classes = (classes.mapM index.require).bind fun paths =>
      ((sortDistinctPaths paths).mapM fun path => (later.readTokens path).map (imports false)).map
        fun names => sortDistinct names.flatten := by
  -- The steps of the program are those of the equation, file by file and class by class.
  have step : (fun path => do return imports false (← later.readTokens path)) =
      fun path => (later.readTokens path).map (imports false) := by
    funext path
    cases later.readTokens path <;> rfl
  rw [classImports, step]
  cases classes.mapM index.require with
  | error failure => rfl
  | ok paths =>
    simp only [bind, Except.bind]
    cases (sortDistinctPaths paths).mapM fun path => (later.readTokens path).map (imports false) <;>
      rfl

/-- Only a missing class is refused as unknown when its imports are asked for. -/
theorem FileTree.classImports_unknown_iff (later : FileTree) :
    later.classImports index [name] = .error (.unknownClass name) ↔ index.path? name = none := by
  rw [classImports_eq, List.mapM_cons, List.mapM_nil, ClassIndex.require]
  cases index.path? name with
  | none => simp [bind, Except.bind]
  | some path =>
    simp only [bind, Except.bind, pure, Except.pure, reduceCtorEq, iff_false]
    intro refused
    cases read : (sortDistinctPaths [path]).mapM fun path =>
        (later.readTokens path).map (imports false) with
    | ok names =>
      rw [read] at refused
      simp [Except.map] at refused
    | error failure =>
      rw [read] at refused
      obtain rfl : failure = .unknownClass name := by simpa [Except.map] using refused
      obtain ⟨other, -, unread⟩ := exists_of_mapM_eq_error read
      -- A class that has a path fails only if its file cannot be read.
      cases tokens : later.readTokens other with
      | ok tokens => simp [tokens, Except.map] at unread
      | error failure =>
        obtain ⟨cause, rfl⟩ := readTokens_eq_error tokens
        simp [tokens, Except.map] at unread

/-- An entry is found under its own name unless the namespace of its file starts at the root. -/
theorem FileTree.path?_declaredIn_iff {tree : FileTree} {settings : Settings}
    {files : List String} {source : String}
    (listed : (name, path) ∈ (tree.declaredIn settings files).entries)
    (readable : tree.readText path = .ok source) :
    (tree.declaredIn settings files).path? name = some path ↔
      (namespaceName? (tokenize source)).any startsAtRoot = false := by
  -- The file spells out all its names with the same namespace.
  have spelled {name : String} (entry : (name, path) ∈ (tree.declaredIn settings files).entries) :
      startsAtRoot name = (namespaceName? (tokenize source)).any startsAtRoot := by
    obtain ⟨-, again, same, declared⟩ := mem_files_of_mem_declaredIn entry
    obtain rfl := Except.ok.inj (readable.symm.trans same)
    exact startsAtRoot_of_mem_classNames declared
  rw [(tree.declaredIn_ordered settings files).path?_eq_some_iff]
  constructor
  · intro entry
    rw [← spelled entry, startsAtRoot_stripLeadingSeparators]
  · intro relative
    rwa [stripLeadingSeparators_eq_self ((spelled listed).trans relative)]

end Lookup

/-- A class of an index is found exactly if the namespace of its file does not start with a
backslash.

Otherwise it is refused as an unknown one, unless another class has its stripped name. -/
theorem indexed_class_found_iff {tree : FileTree} {settings : Settings} {root : String}
    {result : ScanResult ClassIndex} {name path : String}
    (built : (tree.indexClasses settings root).value = .ok result)
    (listed : (name, path) ∈ result.value.entries) :
    ∃ source, tree.readText path = .ok source ∧
      let rooted := (namespaceName? (tokenize source)).any startsAtRoot
      (result.value.path? name = some path ↔ rooted = false) ∧
      (result.value.path? ("\\" ++ name) = some path ↔ rooted = false) ∧
      ∀ later : FileTree,
        (later.classProperties result.value name = .error (.unknownClass name) ↔
          rooted = true ∧ stripLeadingSeparators name ∉ result.value.entries.map Prod.fst) ∧
        (later.classImports result.value [name] = .error (.unknownClass name) ↔
          rooted = true ∧ stripLeadingSeparators name ∉ result.value.entries.map Prod.fst) := by
  -- An entry is there because some file declares the class, under the name as it is entered.
  obtain ⟨files, -, value⟩ := FileTree.exists_declaredIn built
  rw [value] at listed ⊢
  obtain ⟨-, source, readable, -⟩ := FileTree.mem_files_of_mem_declaredIn listed
  have found := FileTree.path?_declaredIn_iff listed readable
  refine ⟨source, readable, ?_⟩
  intro rooted
  -- A name that is not found starts at the root, and its relative form names no entry.
  have missing : (tree.declaredIn settings files).path? name = none ↔ rooted = true ∧
      stripLeadingSeparators name ∉ (tree.declaredIn settings files).entries.map Prod.fst := by
    rw [← ClassIndex.path?_eq_none_iff]
    constructor
    · intro none
      refine ⟨?_, none⟩
      by_contra relative
      rw [found.mpr (by simpa using relative)] at none
      simp at none
    · exact And.right
  -- A separator in front is stripped before the lookup, so both spellings fare alike.
  refine ⟨found, ?_, fun later => ⟨?_, ?_⟩⟩
  · rw [ClassIndex.path?, stripLeadingSeparators_backslash]
    exact found
  · rw [later.classProperties_unknown_iff, missing]
  · rw [later.classImports_unknown_iff, missing]

/-- A folder with a namespace that starts with a backslash. -/
def rootedFolder : FileTree :=
  -- The other class has no namespace.
  smallFolder "<?php namespace \\A; class B {}" "<?php class C {}"

/-- The index of the folder holds both classes. -/
theorem rootedFolder_indexClasses : ∃ result,
    (rootedFolder.indexClasses {} "app").value = .ok result ∧
      result.value.entries = [("C", "app/b.php"), ("\\A\\B", "app/a.php")] := by
  -- The two declarations, in the order of their names.
  obtain ⟨result, built, value⟩ := smallFolder_indexClasses
    "<?php namespace \\A; class B {}" "<?php class C {}"
  refine ⟨result, built, ?_⟩
  rw [value]
  decide +kernel

/-- The class without a namespace is found, with or without a backslash. -/
theorem indexed_class_found_iff_global :
    ∃ result, (rootedFolder.indexClasses {} "app").value = .ok result ∧
      ("C", "app/b.php") ∈ result.value.entries ∧ result.value.path? "C" = some "app/b.php" ∧
      result.value.path? ("\\" ++ "C") = some "app/b.php" := by
  -- The class outside any namespace is found, as its file declares no rooted one.
  obtain ⟨result, built, entries⟩ := rootedFolder_indexClasses
  have listed : ("C", "app/b.php") ∈ result.value.entries := by simp [entries]
  obtain ⟨source, readable, plain, marked, -⟩ := indexed_class_found_iff built listed
  have text : rootedFolder.readText "app/b.php" = .ok "<?php class C {}" :=
    (smallFolder_readText _ _).2.1
  obtain rfl := Except.ok.inj (text.symm.trans readable)
  exact ⟨result, built, listed, plain.mpr (by decide +kernel), marked.mpr (by decide +kernel)⟩

/-- A class whose namespace starts with a backslash has an entry and is not found. -/
theorem rooted_class_not_found :
    ∃ result, (rootedFolder.indexClasses {} "app").value = .ok result ∧
      ("\\A\\B", "app/a.php") ∈ result.value.entries ∧
      result.value.path? "\\A\\B" = none ∧ result.value.path? ("\\" ++ "\\A\\B") = none ∧
      rootedFolder.classProperties result.value "\\A\\B" = .error (.unknownClass "\\A\\B") ∧
      rootedFolder.classImports result.value ["\\A\\B"] = .error (.unknownClass "\\A\\B") := by
  -- Stripped of the separator the name is not among the entries.
  obtain ⟨result, built, entries⟩ := rootedFolder_indexClasses
  have missing : result.value.path? "\\A\\B" = none := by
    rw [ClassIndex.path?, entries]
    decide +kernel
  refine ⟨result, built, by simp [entries], missing, ?_, ?_, ?_⟩
  · rwa [ClassIndex.path?, stripLeadingSeparators_backslash]
  · exact (FileTree.classProperties_unknown_iff _).mpr missing
  · exact (FileTree.classImports_unknown_iff _).mpr missing

end PhpOutline
