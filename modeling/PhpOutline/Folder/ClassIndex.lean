import PhpOutline.Folder.Scan

/-! Class indices: which file declares a class. -/

namespace PhpOutline

/-- The paths of the files that declare classes, by the full names of the classes. -/
structure ClassIndex where
  /-- Names and paths, in increasing order of the names. -/
  entries : List (String × String) := []

/-- The number of classes in an index. -/
def ClassIndex.size (index : ClassIndex) : Nat :=
  -- Each class has one entry.
  index.entries.length

/-- The entries with one more in the place of its name. -/
def insertEntry (name path : String) : List (String × String) → List (String × String)
  -- Names in front are smaller.
  | [] => [(name, path)]
  | entry :: entries =>
    if name < entry.1 then (name, path) :: entry :: entries
    else entry :: insertEntry name path entries

/-- An index with one more declaration. -/
def ClassIndex.insert (index : ClassIndex) (name path : String) : Noted ClassIndex :=
  -- The first declaration of a name stays.
  match index.entries.lookup name with
  | some kept => ⟨index, [.declaredTwice name kept path]⟩
  | none => ⟨⟨insertEntry name path index.entries⟩, []⟩

/-- An index with more declarations, in their order. -/
def ClassIndex.insertAll (index : ClassIndex) : List (String × String) → Noted ClassIndex
  -- Each declaration is a name and a path.
  | [] => ⟨index, []⟩
  | (name, path) :: declarations =>
    let first := index.insert name path
    let rest := first.value.insertAll declarations
    ⟨rest.value, first.events ++ rest.events⟩

/-- The path of the file that declares a class. -/
def ClassIndex.path? (index : ClassIndex) (className : String) : Option String :=
  -- A name that starts at the root is looked up without its backslash.
  index.entries.lookup (stripLeadingSeparators className)

/-- The index of the classes that the files at a path declare. -/
def FileTree.indexClasses (tree : FileTree) (settings : Settings) (root : String) :
    Noted (Except Failure (ScanResult ClassIndex)) :=
  -- Of several files that declare a class the first by path is kept.
  let collected := tree.collectFiles settings root
  match collected.value with
  | .error failure => ⟨.error failure, collected.events⟩
  | .ok files =>
    let scan := tree.scanFiles (classNames true settings.classFilter) files
    let (found, skipped) := scan.value
    let declarations := found.flatMap fun (path, names) => names.map fun name => (name, path)
    let index := ClassIndex.insertAll {} declarations
    let summary := Event.builtIndex root index.value.size
    ⟨.ok ⟨index.value, files.length, skipped⟩,
      collected.events ++ scan.events ++ index.events ++ [summary]⟩

/-- The path of the file that declares a class, which has to be in the index. -/
def ClassIndex.require (index : ClassIndex) (className : String) : Except Failure String :=
  -- The failure names the class as it was asked for.
  match index.path? className with
  | some path => .ok path
  | none => .error (.unknownClass className)

/-- Paths in increasing order, each once. -/
def sortDistinctPaths (paths : List String) : List String :=
  -- Two spellings of one path count as one.
  (paths.mergeSort pathOrdered).eraseRepsBy fun left right =>
    pathComponents left == pathComponents right

/-- The names that the files declaring some classes import. -/
def FileTree.classImports (tree : FileTree) (index : ClassIndex) (classes : List String) :
    Except Failure (List String) := do
  -- All classes are looked up before any file is read.
  let paths ← classes.mapM index.require
  let names ← (sortDistinctPaths paths).mapM fun path => do
    return imports false (← tree.readTokens path)
  return sortDistinct names.flatten

/-- What is known of the properties in the file that declares a class. -/
def FileTree.classProperties (tree : FileTree) (index : ClassIndex) (className : String) :
    Except Failure (List Property) := do
  -- The whole file is looked at, whatever else it declares.
  let path ← index.require className
  let tokens ← tree.readTokens path
  (properties tokens).mapError (Failure.brokenProperties className path)

end PhpOutline
