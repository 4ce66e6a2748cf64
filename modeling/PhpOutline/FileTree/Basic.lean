import PhpOutline.Path

/-! File trees: files, directories and links, and the paths that lead to them. -/

namespace PhpOutline

/-- What stands at a location. -/
inductive FileEntry where
  | file (bytes : ByteArray)
  | directory
  /-- A link to a path that starts from the directory of the link. -/
  | link (target : String)

/-- The names on the way from the root to a file or directory. -/
abbrev Location := List String

/-- A finite tree of files. -/
structure FileTree where
  /-- What stands below the root, in the order of creation. -/
  entries : List (Location × FileEntry) := []
  /-- Where relative paths start. -/
  workingDirectory : Location := []

/-- Why a file cannot be read. -/
inductive FileError where
  | notFound
  | notADirectory
  | isADirectory
  | tooManyLinks
  | nameTooLong
  /-- A path holds a character that ends names. -/
  | brokenPath
  | notText
deriving DecidableEq, Repr

/-- The message of a cause. -/
def FileError.message : FileError → String
  -- Those with a number are the messages of the system.
  | .notFound => "No such file or directory (os error 2)"
  | .notADirectory => "Not a directory (os error 20)"
  | .isADirectory => "Is a directory (os error 21)"
  | .tooManyLinks => "Too many levels of symbolic links (os error 40)"
  | .nameTooLong => "File name too long (os error 36)"
  | .brokenPath => "file name contained an unexpected NUL byte"
  | .notText => "stream did not contain valid UTF-8"

/-- What stands at a location, links not followed. -/
def FileTree.get? (tree : FileTree) (location : Location) : Option FileEntry :=
  -- The root is always a directory.
  if location.isEmpty then some .directory else tree.entries.lookup location

/-- The names of what stands in the directory at a location. -/
def FileTree.names (tree : FileTree) (location : Location) : List String :=
  -- A location lies in the directory that is one name shorter.
  tree.entries.filterMap fun entry =>
    if entry.1.dropLast == location then entry.1.getLast? else none

/-- The greatest number of links that one path may lead through. -/
def linkLimit : Nat :=
  -- Beyond this a chain of links is taken for a circle.
  40

/-- The greatest length of a name, in bytes. -/
def nameLimit : Nat :=
  -- Directories have no room for more.
  255

/-- The location that some pieces of a path lead to from another, links followed. -/
def FileTree.follow (tree : FileTree) (links : Nat) (location : Location) (pieces : List String) :
    Except FileError Location :=
  -- Every piece needs a directory to start from, and a link puts its target in its place.
  match pieces with
  | [] => .ok location
  | piece :: rest =>
    match tree.get? location with
    | none => .error .notFound
    | some .directory =>
      if piece == "" || piece == "." then tree.follow links location rest
      else if piece == ".." then tree.follow links location.dropLast rest
      else if nameLimit < piece.utf8ByteSize then .error .nameTooLong
      else
        match tree.get? (location ++ [piece]) with
        | none => .error .notFound
        | some (.link target) =>
          match links with
          | 0 => .error .tooManyLinks
          | links + 1 =>
            if target.isEmpty then .error .notFound
            else
              let start := if target.startsWith "/" then [] else location
              tree.follow links start (pathPieces target ++ rest)
        | some _ => tree.follow links (location ++ [piece]) rest
    | some _ => .error .notADirectory
termination_by (links, pieces.length)

/-- The length that no path reaches, in bytes. -/
def pathLimit : Nat :=
  -- The system keeps paths in pages of this size.
  4096

/-- The location that a path leads to, links followed. -/
def FileTree.locate (tree : FileTree) (path : String) : Except FileError Location :=
  -- The path as a whole is looked at before its pieces, and an empty one leads nowhere.
  if path.toList.contains '\x00' then .error .brokenPath
  else if pathLimit ≤ path.utf8ByteSize then .error .nameTooLong
  else if path.isEmpty then .error .notFound
  else
    let start := if path.startsWith "/" then [] else tree.workingDirectory
    tree.follow linkLimit start (pathPieces path)

/-- Whether a path leads to something. -/
def FileTree.hasPath (tree : FileTree) (path : String) : Bool :=
  -- A link whose target is missing leads to nothing.
  match tree.locate path with
  | .ok _ => true
  | .error _ => false

/-- Whether a path leads to a file. -/
def FileTree.isFile (tree : FileTree) (path : String) : Bool :=
  -- Links are followed.
  match tree.locate path with
  | .ok location =>
    match tree.get? location with
    | some (.file _) => true
    | _ => false
  | .error _ => false

/-- The text of the file that a path leads to. -/
def FileTree.readText (tree : FileTree) (path : String) : Except FileError String := do
  -- The bytes have to be those of a text.
  match tree.get? (← tree.locate path) with
  | some (.file bytes) =>
    match String.fromUTF8? bytes with
    | some text => .ok text
    | none => .error .notText
  | some .directory => .error .isADirectory
  | _ => .error .notFound

/-- The tree with an entry at a location and directories on the way to it. -/
def FileTree.put (tree : FileTree) (location : Location) (entry : FileEntry) : FileTree :=
  -- What stands there already is replaced in its place.
  let parents := (List.range location.length).map location.take
  let missing := parents.filter fun parent => (tree.get? parent).isNone
  let known := tree.entries ++ missing.map fun parent => (parent, .directory)
  if (tree.get? location).isSome then
    let replace := fun (old : Location × FileEntry) =>
      if old.1 == location then (location, entry) else old
    { tree with entries := known.map replace }
  else { tree with entries := known ++ [(location, entry)] }

/-- The tree without what stands at a location or below it. -/
def FileTree.erase (tree : FileTree) (location : Location) : FileTree :=
  -- Links to it stay and lead to nothing.
  { tree with entries := tree.entries.filter fun entry => !location.isPrefixOf entry.1 }

end PhpOutline
