import PhpOutline.CommandLine.Arguments
import PhpOutline.CommandLine.Run

/-! The program: it reads what a request needs, carries the request out and prints the report. -/

namespace PhpOutline

/-- The path that leads to a location from the root. -/
def Location.path (location : Location) : String :=
  -- The root itself has only the separator.
  "/" ++ "/".intercalate location

/-- The names on the way from the root to where a path leads. -/
def Location.ofPath (path : String) : Location :=
  -- The path has no links and no steps up.
  (pathPieces path).filter (· != "")

/-- What has been read from the disk. -/
structure Loading where
  tree : FileTree := {}
  /-- The directories that have been read, each once. -/
  opened : List Location := []

/-- What stands at a location on the disk, if it can be read. -/
def readFrom? (location : Location) : IO (Option FileEntry) := do
  -- A link that leads nowhere is kept without a target.
  let path := (← IO.currentDir) / location.path
  try
    match (← path.symlinkMetadata).type with
    | .dir => return some .directory
    | .file => return some (.file (← IO.FS.readBinFile path))
    | .symlink =>
      let target ← try pure (← IO.FS.realPath path).toString catch _ => pure ""
      return some (.link target)
    | .other => return none
  catch _ => return none

/-- The names in the directory at a location on the disk. -/
def readNames (location : Location) : IO (List String) := do
  -- A directory that cannot be read seems empty.
  let path := (← IO.currentDir) / location.path
  try
    return (← path.readDir).toList.map fun entry => entry.fileName
  catch _ => return []

mutual

/-- Reads a directory and all that lies below it. -/
partial def Loading.open (loading : Loading) (location : Location) : IO Loading := do
  -- Links may lead to the same directory several times.
  if loading.opened.contains location then return loading
  let opened := { loading with opened := location :: loading.opened }
  (← readNames location).foldlM (fun loading name => loading.load (location ++ [name])) opened

/-- Reads what stands at a location, and all that lies below it. -/
partial def Loading.load (loading : Loading) (location : Location) : IO Loading := do
  -- What a link leads to is read too.
  let some entry ← readFrom? location | return loading
  let loaded := { loading with tree := loading.tree.put location entry }
  match entry with
  | .file _ => return loaded
  | .directory => loaded.open location
  | .link target =>
    if target.isEmpty then return loaded else loaded.load (Location.ofPath target)

end

/-- Reads what some pieces of a path lead through, and all that lies below the last. -/
def Loading.loadWay (loading : Loading) (location : Location) : List String → IO Loading
  -- Each piece starts from where the pieces in front of it lead.
  | [] => loading.load location
  | piece :: rest => do
    if piece == "" || piece == "." then loading.loadWay location rest
    else if piece == ".." then loading.loadWay location.dropLast rest
    else
      let inside := location ++ [piece]
      match ← readFrom? inside with
      | none => return loading
      | some (.link target) =>
        let loaded := { loading with tree := loading.tree.put inside (.link target) }
        if target.isEmpty then return loaded else loaded.loadWay (Location.ofPath target) rest
      | some entry =>
        Loading.loadWay { loading with tree := loading.tree.put inside entry } inside rest

/-- Reads what a path leads to. -/
def Loading.loadPath (loading : Loading) (path : String) : IO Loading :=
  -- A relative path starts from the working directory.
  let start := if path.startsWith "/" then [] else loading.tree.workingDirectory
  loading.loadWay start (pathPieces path)

/-- The path that a command works on. -/
def Command.path : Command → String
  -- Every command has one.
  | .analyze file => file
  | .uses path => path
  | .tokens file => file
  | .locate folder _ => folder

/-- Reads what a request needs. -/
def loadTree (directory : String) (invocation : Invocation) : IO FileTree := do
  -- The settings are read first, wherever they may be.
  let start : Loading := { tree := { workingDirectory := Location.ofPath directory } }
  let settings := invocation.settingsPath?.toList ++ settingsNames.map (joinPath directory)
  let loaded ← (settings ++ [invocation.command.path]).foldlM Loading.loadPath start
  return loaded.tree

/-- Carries out a request and prints what comes of it. -/
def Invocation.execute (invocation : Invocation) : IO UInt32 := do
  -- Reports go to the output, and everything else beside it.
  let directory := (← IO.FS.realPath (← IO.currentDir)).toString
  let tree ← loadTree directory invocation
  let colored := (← (← IO.getStdout).isTty) && (← IO.getEnv "NO_COLOR").isNone
  let done := tree.run directory colored invocation
  for event in done.events do
    if invocation.verbose || event.severity == .warning then IO.eprintln event.line
  match done.value with
  | .ok result =>
    IO.print result.output
    return result.exitCode.toUInt32
  | .error failure =>
    IO.eprint failure.report
    return failureCode.toUInt32

/-- Prints what a wrong request, or one for help, is answered with. -/
def UsageError.print (error : UsageError) : IO UInt32 := do
  -- Only what was asked for goes to the output.
  match error with
  | .versionRequested => IO.print versionText
  | .helpRequested => IO.print usageText
  | _ => IO.eprint usageText
  return error.exitCode.toUInt32

end PhpOutline

open PhpOutline in
/-- Carries out the request that the words of the command line make. -/
def main (words : List String) : IO UInt32 :=
  -- A wrong request is answered with how to make one.
  match parseArguments words with
  | .ok invocation => invocation.execute
  | .error error => error.print
