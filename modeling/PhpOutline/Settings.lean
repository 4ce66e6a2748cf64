import PhpOutline.ClassLike
import PhpOutline.Glob.Parse
import PhpOutline.Path
import PhpOutline.Token.Pattern

/-! Settings: which files are scanned, and how names are reported. -/

namespace PhpOutline

/-- What a user can set, with what holds when nothing is set. -/
structure Settings where
  /-- Extensions of the files to scan. -/
  extensions : List String := []
  /-- Glob patterns of the paths to leave out. -/
  excludedPaths : List String := []
  skipHidden? : Option Bool := none
  includeInterfaces : Bool := false
  includeTraits : Bool := false
  fullNames? : Option Bool := none
  sortUses? : Option Bool := none
  /-- Patterns of the tokens trimmed from a listing. -/
  trimPatterns : List String := []
deriving DecidableEq, Repr

/-- Whether hidden files and directories are left out. -/
def Settings.skipHidden (settings : Settings) : Bool :=
  -- They are unless the user says otherwise.
  settings.skipHidden?.getD true

/-- Whether names are reported in full. -/
def Settings.fullNames (settings : Settings) : Bool :=
  -- They are unless the user says otherwise.
  settings.fullNames?.getD true

/-- Whether imported names are sorted. -/
def Settings.sortUses (settings : Settings) : Bool :=
  -- They are unless the user says otherwise.
  settings.sortUses?.getD true

/-- The declarations whose names are reported. -/
def Settings.classFilter (settings : Settings) : ClassFilter :=
  -- Classes always are.
  { interfaces := settings.includeInterfaces, traits := settings.includeTraits }

/-- An extension without the dots in front of it. -/
def stripDots (extension : String) : String :=
  -- Any number of dots is dropped.
  String.ofList (extension.toList.dropWhile (· == '.'))

/-- The extensions of the files to scan, in lower case. -/
def Settings.scannedExtensions (settings : Settings) : List String :=
  -- Without any given the source files of the language are scanned.
  if settings.extensions.isEmpty then ["php"]
  else settings.extensions.map fun extension => lowerAscii (stripDots extension)

/-- Whether a path has one of the extensions to scan, whatever its case. -/
def Settings.scans (settings : Settings) (path : String) : Bool :=
  -- A path without an extension is never scanned.
  (pathExtension? path).any fun extension =>
    settings.scannedExtensions.contains (lowerAscii extension)

/-- Whether a path is left out. -/
def Settings.excludes (settings : Settings) (path : String) : Bool :=
  -- A text that is no glob pattern leaves nothing out.
  settings.excludedPaths.any fun pattern =>
    match Glob.parse pattern with
    | .ok glob => glob.accepts path
    | .error _ => false

/-- What is wrong with settings. -/
inductive SettingsError where
  | badExtension (extension : String)
  | badGlob (pattern : String) (cause : GlobError)
  | badTrim (entry : String) (cause : Fault)
deriving DecidableEq, Repr

/-- The message of a cause. -/
def SettingsError.message : SettingsError → String
  -- Each message quotes the entry it is about.
  | .badExtension extension => "invalid extension " ++ quote extension
  | .badGlob pattern cause =>
    "invalid excluded_paths pattern " ++ quote pattern ++ ": error parsing glob '" ++ pattern ++
      "': " ++ cause.message
  | .badTrim entry cause => "invalid trim_chars entry " ++ quote entry ++ ": " ++ cause.message

/-- The pattern of the tokens trimmed from a listing, if one is set. -/
def Settings.trimPattern (settings : Settings) : Except SettingsError (Option Pattern) := do
  -- Several entries trim what any of them accepts.
  let patterns ← settings.trimPatterns.mapM fun entry =>
    (Pattern.parse entry).mapError (SettingsError.badTrim entry)
  match patterns with
  | [] => return none
  | [pattern] => return some pattern
  | patterns => return some (.anyOf patterns)

/-- Checks that every entry of the settings makes sense. -/
def Settings.validate (settings : Settings) : Except SettingsError Unit := do
  -- Extensions are checked first, then globs, then patterns of tokens.
  settings.extensions.forM fun extension =>
    if (stripDots extension).isEmpty then .error (.badExtension extension) else .ok ()
  settings.excludedPaths.forM fun pattern => do
    let _ ← (Glob.parse pattern).mapError (SettingsError.badGlob pattern)
  let _ ← settings.trimPattern

end PhpOutline
