import PhpOutline.FileTree.Walk
import PhpOutline.Folder.Event
import PhpOutline.Outline

/-! Scans of every source file in a folder, in which a file that fails does not stop the others. -/

namespace PhpOutline

/-- Why a command fails. -/
inductive Failure where
  | unreadableSource (path : String) (cause : FileError)
  | unreadableSettings (path : String) (cause : FileError)
  /-- Settings that are no YAML, or whose values are of the wrong sort. -/
  | malformedSettings (path : String)
  | invalidSettings (cause : SettingsError)
  | brokenWalk (root : String) (cause : WalkError)
  | brokenOutline (path : String) (cause : Fault)
  | brokenProperties (className path : String) (cause : Fault)
  | unknownClass (className : String)
  | inaccessible (path : String)
deriving DecidableEq, Repr

/-- The message of a failure: what was tried, and what went wrong. -/
def Failure.message : Failure → String
  -- Each message names the path or class that it is about.
  | .unreadableSource path cause => "failed to read " ++ path ++ ": " ++ cause.message
  | .unreadableSettings path cause => "failed to read config " ++ path ++ ": " ++ cause.message
  | .malformedSettings path => "failed to parse config " ++ path
  | .invalidSettings cause => cause.message
  | .brokenWalk root cause => "failed to walk " ++ root ++ ": " ++ cause.message
  | .brokenOutline path cause => "failed to analyze " ++ path ++ ": " ++ cause.message
  | .brokenProperties className path cause =>
    "failed to read properties of " ++ className ++ " in " ++ path ++ ": " ++ cause.message
  | .unknownClass className => "class " ++ className ++ " not found in index"
  | .inaccessible path => "cannot access path " ++ quote path

/-- The visits of a walk before it breaks off, and why it does. -/
def cutWalk : List (Except WalkError Visit) → List Visit × Option WalkError
  -- Nothing after the first error counts.
  | [] => ([], none)
  | .error cause :: _ => ([], some cause)
  | .ok visit :: rest =>
    let (visits, cause?) := cutWalk rest
    (visit :: visits, cause?)

/-- Whether a file that is met is left out by a pattern. -/
def Settings.excludesVisit (settings : Settings) (visit : Visit) : Bool :=
  -- Patterns see the path below the start of the walk.
  settings.excludes ("/".intercalate visit.names)

/-- The files to scan at a path, in the order of their paths. -/
def FileTree.collectFiles (tree : FileTree) (settings : Settings) (root : String) :
    Noted (Except Failure (List String)) :=
  -- A single file is taken as it is.
  if tree.isFile root then ⟨.ok [root], []⟩
  else
    let (visits, cause?) := cutWalk (tree.walk settings.skipHidden root)
    let scanned := visits.filter fun visit => settings.scans visit.path
    let (excluded, kept) := scanned.partition settings.excludesVisit
    let events := excluded.map fun visit => Event.excluded visit.path
    match cause? with
    | some cause => ⟨.error (.brokenWalk root cause), events⟩
    | none => ⟨.ok ((kept.map Visit.path).mergeSort pathOrdered), events⟩

/-- The tokens of the source file that a path leads to. -/
def FileTree.readTokens (tree : FileTree) (path : String) : Except Failure (List Token) := do
  -- Any text has tokens.
  let source ← (tree.readText path).mapError (Failure.unreadableSource path)
  return tokenize source

/-- The outline of the source file that a path leads to. -/
def FileTree.readOutline (tree : FileTree) (settings : Settings) (path : String) :
    Except Failure Outline := do
  -- The outline of a file knows its path.
  let tokens ← tree.readTokens path
  let outline ← (Outline.ofTokens settings tokens).mapError (Failure.brokenOutline path)
  return { outline with path? := some path }

/-- A file that was left out because of a failure. -/
structure SkippedFile where
  path : String
  message : String
deriving DecidableEq, Repr

/-- What a scan found, and what it had to leave out. -/
structure ScanResult (α : Type) where
  value : α
  fileCount : Nat
  skipped : List SkippedFile

/-- Whether no file was left out. -/
def ScanResult.isComplete (result : ScanResult α) : Bool :=
  -- A scan of no files is complete.
  result.skipped.isEmpty

/-- What is read of each file, and the files that cannot be read. -/
def FileTree.scanFiles (tree : FileTree) (read : List Token → α) (files : List String) :
    Noted (List (String × α) × List SkippedFile) :=
  -- Files are read one by one, and their order is kept.
  let results := files.map fun path => (path, (tree.readTokens path).map read)
  let found := results.filterMap fun result => match result with
    | (path, .ok value) => some (path, value)
    | (_, .error _) => none
  let skipped := results.filterMap fun result => match result with
    | (_, .ok _) => none
    | (path, .error failure) => some ⟨path, failure.message⟩
  let notes := skipped.map fun file => Event.skipping file.path file.message
  ⟨(found, skipped), files.map .scanning ++ notes⟩

/-- Texts in increasing order, each once. -/
def sortDistinct (texts : List String) : List String :=
  -- In a sorted list equal texts are neighbours.
  (texts.mergeSort fun left right => decide (left ≤ right)).eraseReps

/-- The names that the files of a folder import. -/
def FileTree.folderImports (tree : FileTree) (settings : Settings) (folder : String) :
    Noted (Except Failure (ScanResult (List String))) :=
  -- Each name is reported once, whatever the number of files that import it.
  let collected := tree.collectFiles settings folder
  match collected.value with
  | .error failure => ⟨.error failure, collected.events⟩
  | .ok files =>
    let scan := tree.scanFiles (imports false) files
    let (found, skipped) := scan.value
    let names := sortDistinct (found.flatMap Prod.snd)
    let summary := Event.collectedImports folder files.length skipped.length names.length
    ⟨.ok ⟨names, files.length, skipped⟩, collected.events ++ scan.events ++ [summary]⟩

end PhpOutline
