import PhpOutline.Text.Basic

/-! Paths: texts that name files, and the components that they are made of. -/

namespace PhpOutline

/-- One step of a path. -/
inductive PathComponent where
  | root
  /-- The directory that a relative path starts from, named by a leading dot. -/
  | current
  | parent
  | name (text : String)
deriving DecidableEq, Repr

/-- The component that a piece between two separators stands for. -/
def PathComponent.ofPiece? (piece : String) : Option PathComponent :=
  -- Empty pieces and dots lead nowhere.
  if piece == "" || piece == "." then none
  else if piece == ".." then some .parent
  else some (.name piece)

/-- The pieces between the separators of a path. -/
def pathPieces (path : String) : List String :=
  -- Separators next to each other have an empty piece between them.
  (splitAt (· == '/') path.toList).map String.ofList

/-- The components of a path. -/
def pathComponents (path : String) : List PathComponent :=
  -- Only a dot at the very front is a step of its own.
  let pieces := pathPieces path
  let front :=
    match pieces with
    | "" :: _ :: _ => [.root]
    | "." :: _ => [.current]
    | _ => []
  front ++ pieces.filterMap PathComponent.ofPiece?

/-- The name of the file or directory that a path leads to. -/
def fileName? (path : String) : Option String :=
  -- A path that ends in a step up has no name.
  match (pathComponents path).getLast? with
  | some (.name text) => some text
  | _ => none

/-- The extension of a file name. -/
def nameExtension? (name : String) : Option String :=
  -- The last dot counts unless it is the first character.
  let backwards := name.toList.reverse
  let extension := backwards.takeWhile (· != '.')
  if extension.length + 1 < backwards.length then some (String.ofList extension.reverse) else none

/-- The extension of the file that a path leads to. -/
def pathExtension? (path : String) : Option String :=
  -- Directories in front do not matter.
  (fileName? path).bind nameExtension?

/-- A path with a further step. -/
def joinPath (path step : String) : String :=
  -- A step that starts at the root replaces the path, and a separator is never doubled.
  if step.startsWith "/" || path == "" then step
  else if path.endsWith "/" then path ++ step
  else path ++ "/" ++ step

/-- The rank of a component among components of other sorts. -/
def PathComponent.rank : PathComponent → Nat
  -- The root comes first, and names come last.
  | .root => 0
  | .current => 1
  | .parent => 2
  | .name _ => 3

/-- Whether a component stands before another. -/
def PathComponent.before : PathComponent → PathComponent → Bool
  -- Names are compared by their characters.
  | .name left, .name right => left < right
  | left, right => left.rank < right.rank

/-- Whether a list of components stands before another or equals it. -/
def componentsOrdered : List PathComponent → List PathComponent → Bool
  -- The first difference decides, and a path stands before what lies below it.
  | [], _ => true
  | _ :: _, [] => false
  | left :: lefts, right :: rights =>
    left.before right || (left == right && componentsOrdered lefts rights)

/-- Whether a path stands before another or equals it, component by component. -/
def pathOrdered (left right : String) : Bool :=
  -- Two spellings of one list of components are equal here.
  componentsOrdered (pathComponents left) (pathComponents right)

end PhpOutline
