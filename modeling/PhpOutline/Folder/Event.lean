/-! Events that the work on a folder reports as it goes. -/

namespace PhpOutline

/-- Something worth noting. -/
inductive Event where
  | loadedSettings (path : String)
  | excluded (path : String)
  | scanning (path : String)
  | skipping (path message : String)
  | declaredTwice (className kept ignored : String)
  | collectedImports (folder : String) (files failed names : Nat)
  | builtIndex (root : String) (classes : Nat)
  | nothingToScan (path : String)
deriving DecidableEq, Repr

/-- How much an event matters. -/
inductive Severity where
  | debug
  | info
  | warning
deriving DecidableEq, Repr

/-- The word that opens the line of an event. -/
def Severity.word : Severity → String
  -- The words are in capitals.
  | .debug => "DEBUG"
  | .info => "INFO"
  | .warning => "WARN"

/-- How much an event matters. -/
def Event.severity : Event → Severity
  -- A warning is about something that the reports leave out.
  | .loadedSettings _ => .debug
  | .excluded _ => .debug
  | .scanning _ => .debug
  | .skipping _ _ => .warning
  | .declaredTwice _ _ _ => .warning
  | .collectedImports _ _ _ _ => .info
  | .builtIndex _ _ => .info
  | .nothingToScan _ => .warning

/-- What happened, followed by the fields of an event. -/
def Event.description : Event → String
  -- Fields come in a fixed order, and their values stand as they are.
  | .loadedSettings path => s!"loaded config config={path}"
  | .excluded path => s!"excluded path={path}"
  | .scanning path => s!"scanning path={path}"
  | .skipping path message => s!"skipping file path={path} error={message}"
  | .declaredTwice className kept ignored =>
    s!"class declared twice class={className} kept={kept} ignored={ignored}"
  | .collectedImports folder files failed names =>
    s!"collected use dependencies dir={folder} files={files} failed={failed} dependencies={names}"
  | .builtIndex root classes => s!"built class index root={root} classes={classes}"
  | .nothingToScan path => s!"no files to scan path={path}"

/-- The line that notes an event. -/
def Event.line (event : Event) : String :=
  -- How much it matters comes first.
  event.severity.word ++ " " ++ event.description

/-- A value with the events that led to it. -/
structure Noted (α : Type) where
  value : α
  events : List Event

end PhpOutline
