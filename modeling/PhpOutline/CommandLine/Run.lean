import PhpOutline.CommandLine.Command
import PhpOutline.Folder.ClassIndex
import PhpOutline.Report.Document
import PhpOutline.Report.Pretty
import PhpOutline.Settings.Document
import PhpOutline.Token.Excerpt

/-! Requests carried out on a file tree. -/

namespace PhpOutline

/-- The names under which settings are looked up in a directory. -/
def settingsNames : List String :=
  -- The first one that exists is read.
  ["tokenscope.yaml", ".tokenscope.yaml"]

/-- The path of the settings in a directory, if there are any. -/
def FileTree.findSettings? (tree : FileTree) (directory : String) : Option String :=
  -- Anything with the right name counts.
  (settingsNames.map (joinPath directory)).find? tree.hasPath

/-- The settings in the file that a path leads to. -/
def FileTree.readSettings (tree : FileTree) (path : String) : Except Failure Settings := do
  -- The text may be unreadable, or not be that of settings.
  let text ← (tree.readText path).mapError (Failure.unreadableSettings path)
  match Settings.parse? text with
  | some settings => .ok settings
  | none => .error (.malformedSettings path)

/-- The settings to use, and the path that they were read from. -/
def FileTree.loadSettings (tree : FileTree) (explicit? : Option String) (directory : String) :
    Except Failure (Settings × Option String) := do
  -- A path that is given wins over the directory, and without either nothing is set.
  let path? := explicit? <|> tree.findSettings? directory
  let settings ← match path? with
    | some path => tree.readSettings path
    | none => .ok {}
  settings.validate.mapError Failure.invalidSettings
  return (settings, path?)

/-- What a command leaves behind. -/
structure CommandResult where
  exitCode : Nat
  output : String
deriving DecidableEq, Repr

/-- The exit code of a command that may have found something wrong. -/
def verdictCode (good : Bool) : Nat :=
  -- Two is kept for failures.
  if good then 0 else 1

/-- A report in a format. -/
def formatReport (format : Format) (json : Json) (pretty : String) : String :=
  -- The two forms tell the same.
  match format with
  | .json => json.document
  | .pretty => pretty

/-- Reports the outline of a file. -/
def FileTree.runAnalyze (tree : FileTree) (settings : Settings) (format : Format) (colored : Bool)
    (file : String) : Except Failure CommandResult := do
  -- A file that has an outline is in order.
  let outline ← tree.readOutline settings file
  return ⟨0, formatReport format outline.toJson (prettyOutline colored file outline)⟩

/-- Reports what a file or the files of a folder import. -/
def FileTree.runUses (tree : FileTree) (settings : Settings) (format : Format) (colored : Bool)
    (path : String) : Noted (Except Failure CommandResult) :=
  -- Files that had to be left out make the verdict bad, but none to scan only calls for a note.
  if tree.hasPath path then
    let scan := tree.folderImports settings path
    match scan.value with
    | .error failure => ⟨.error failure, scan.events⟩
    | .ok result =>
      let note := if result.fileCount == 0 then [.nothingToScan path] else []
      let report :=
        formatReport format (importsJson path result) (prettyImports colored path result)
      ⟨.ok ⟨verdictCode result.isComplete, report⟩, scan.events ++ note⟩
  else ⟨.error (.inaccessible path), []⟩

/-- Reports the tokens of a file. -/
def FileTree.runTokens (tree : FileTree) (settings : Settings) (format : Format) (colored : Bool)
    (file : String) : Except Failure CommandResult := do
  -- Blanks are trimmed unless the settings name something else.
  let tokens ← tree.readTokens file
  let pattern? ← settings.trimPattern.mapError Failure.invalidSettings
  let trimmed := trimBoth (pattern?.getD .whitespace) tokens
  return ⟨0, formatReport format (tokensJson file trimmed) (prettyTokens colored file trimmed)⟩

/-- Reports which file of a folder declares a class. -/
def FileTree.runLocate (tree : FileTree) (settings : Settings) (format : Format) (colored : Bool)
    (folder className : String) : Noted (Except Failure CommandResult) :=
  -- A class that is not found makes the verdict bad.
  let index := tree.indexClasses settings folder
  let report := index.value.map fun result =>
    let path? := result.value.path? className
    ⟨verdictCode path?.isSome,
      formatReport format (locationJson className path?) (prettyLocation colored className path?)⟩
  ⟨report, index.events⟩

/-- Carries out a command. -/
def FileTree.runCommand (tree : FileTree) (settings : Settings) (format : Format) (colored : Bool) :
    Command → Noted (Except Failure CommandResult)
  -- Only work on folders notes events.
  | .analyze file => ⟨tree.runAnalyze settings format colored file, []⟩
  | .uses path => tree.runUses settings format colored path
  | .tokens file => ⟨tree.runTokens settings format colored file, []⟩
  | .locate folder className => tree.runLocate settings format colored folder className

/-- Carries out a request, with the settings of a directory unless it names others. -/
def FileTree.run (tree : FileTree) (directory : String) (colored : Bool) (invocation : Invocation) :
    Noted (Except Failure CommandResult) :=
  -- Wrong settings stop every command.
  match tree.loadSettings invocation.settingsPath? directory with
  | .error failure => ⟨.error failure, []⟩
  | .ok (settings, path?) =>
    let done := tree.runCommand settings invocation.format colored invocation.command
    ⟨done.value, path?.toList.map .loadedSettings ++ done.events⟩

/-- What is printed after a failure. -/
def Failure.report (failure : Failure) : String :=
  -- One line says what went wrong.
  "Error: " ++ failure.message ++ "\n"

/-- The exit code after a failure. -/
def failureCode : Nat :=
  -- A bad verdict has a code of its own.
  2

end PhpOutline
