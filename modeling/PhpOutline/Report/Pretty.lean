import PhpOutline.Folder.Scan
import PhpOutline.Report.Record
import PhpOutline.Report.Style

/-! Reports for a reader at a terminal. -/

namespace PhpOutline

/-- Lines of text, each with its line feed. -/
def unlines (lines : List String) : String :=
  -- The last line ends too.
  String.join (lines.map fun line => line ++ "\n")

/-- The lines that open a report about a path. -/
def headerLines (colored : Bool) (label path : String) : List String :=
  -- The name and version come first.
  ["", "  " ++ accented colored [.bold, .cyan] "tokenscope" ++ " v" ++ reportVersion, "",
   "  " ++ accented colored [.dimmed] (padRight 10 label) ++ path, ""]

/-- The line of a field that may be absent. -/
def fieldLine (colored : Bool) (label : String) (value? : Option String) : String :=
  -- A hyphen stands for an absent value.
  "  " ++ accented colored [.bold] (padRight 12 label)
    ++ value?.getD (accented colored [.dimmed] "-")

/-- The line that counts some items. -/
def countLine (colored : Bool) (label : String) (count : Nat) : String :=
  -- The items follow on lines of their own.
  "  " ++ accented colored [.bold] label ++ " (" ++ toString count ++ "):"

/-- The lines of a list of texts. -/
def listLines (colored : Bool) (label : String) (items : List String) : List String :=
  -- Items are indented below their count.
  countLine colored label items.length :: items.map fun item => "    " ++ item

/-- The lines that a declaration covers. -/
def lineRange (colored : Bool) (first last : Nat) : String :=
  -- Both lines are given even if they are the same.
  accented colored [.dimmed] s!"  lines {first}-{last}"

/-- The word for the narrowest visibility of a property. -/
def Property.visibilityWord (property : Property) : String :=
  -- Without a modifier a property is public.
  if property.isPrivate then "private" else if property.isProtected then "protected" else "public"

/-- The line of a property. -/
def propertyLine (colored : Bool) (property : Property) : String :=
  -- Modifiers come first, then the name, the lines and a note on documentation.
  let modifier := if property.isStatic then accented colored [.yellow] "static" ++ " " else ""
  let note := if property.docComment?.isSome then accented colored [.dimmed] "  (doc)" else ""
  "    " ++ accented colored [.yellow] (padRight 10 property.visibilityWord) ++ modifier
    ++ accented colored [.blue] ("$" ++ property.name)
    ++ lineRange colored property.firstLine property.lastLine ++ note

/-- The line of a method. -/
def methodLine (colored : Bool) (method : Method) : String :=
  -- Modifiers come first, then the name with its parameters, and the lines.
  let flags :=
    (if method.isAbstract then ["abstract"] else []) ++ (if method.isFinal then ["final"] else [])
      ++ (if method.isStatic then ["static"] else [])
  let modifiers := if flags.isEmpty then ""
    else accented colored [.yellow] (" ".intercalate flags) ++ " "
  "    " ++ accented colored [.yellow] (padRight 10 method.visibility.name) ++ modifiers
    ++ accented colored [.blue] method.name ++ method.parameters
    ++ lineRange colored method.firstLine method.lastLine

/-- The lines of a part of a report that may have no items. -/
def partLines (colored : Bool) (label : String) (items : List String) : List String :=
  -- Without items the part is left out.
  if items.isEmpty then [] else countLine colored label items.length :: items ++ [""]

/-- The report on an outline. -/
def prettyOutline (colored : Bool) (path : String) (outline : Outline) : String :=
  -- Names come first, then members.
  unlines <|
    headerLines colored "Analyzing:" path ++
    [fieldLine colored "Namespace" outline.space?, fieldLine colored "Parent" outline.parent?, ""]
    ++ listLines colored "Classes" outline.classes
    ++ listLines colored "Interfaces" outline.interfaces
    ++ listLines colored "Uses" outline.imports ++ [""]
    ++ partLines colored "Properties" (outline.properties.map (propertyLine colored))
    ++ partLines colored "Methods" (outline.methods.map (methodLine colored))

/-- The lines of the files that were left out. -/
def skippedLines (colored : Bool) (skipped : List SkippedFile) : List String :=
  -- Each file has its message on a line of its own.
  if skipped.isEmpty then []
  else
    let lines := skipped.flatMap fun file =>
      ["    " ++ accented colored [.red] "ERROR" ++ " " ++ accented colored [.blue] file.path,
       "            " ++ file.message]
    countLine colored "Skipped" skipped.length :: lines ++ [""]

/-- The report on the imports of a folder. -/
def prettyImports (colored : Bool) (path : String) (result : ScanResult (List String)) : String :=
  -- The last line counts the files.
  let verdict := if result.isComplete then accented colored [.green] "OK"
    else accented colored [.red] (toString result.skipped.length ++ " skipped")
  let count := accented colored [.dimmed] (toString result.fileCount ++ " files scanned")
  unlines <|
    headerLines colored "Scanning:" path ++ listLines colored "Dependencies" result.value ++ [""]
    ++ skippedLines colored result.skipped ++ ["  " ++ count ++ "  " ++ verdict, ""]

/-- The line of a token at an index. -/
def tokenLine (colored : Bool) (token : Token) (index : Nat) : String :=
  -- A symbol stands alone, a typed token with its kind, its quoted text and its line.
  let number := "  " ++ accented colored [.dimmed] (padLeft 5 (toString index)) ++ "  "
  match token with
  | .symbol char => number ++ accented colored [.yellow] (String.singleton char)
  | .typed kind text line =>
    number ++ accented colored [.cyan] (padRight 28 kind.name) ++ padRight 40 (quote text)
      ++ accented colored [.dimmed] s!"line {line}"

/-- The report on the tokens of a file. -/
def prettyTokens (colored : Bool) (path : String) (tokens : List Token) : String :=
  -- Each token has a line.
  let numbered := tokens.zipIdx.map fun (token, index) => tokenLine colored token index
  unlines (headerLines colored "Tokens:" path ++ numbered ++ [""])

/-- The report on where a class is declared. -/
def prettyLocation (colored : Bool) (className : String) (path? : Option String) : String :=
  -- The class is named as it was asked for.
  let place := match path? with
    | some path => accented colored [.blue] path
    | none => accented colored [.red] "not found"
  unlines [accented colored [.bold] className ++ "  " ++ place]

end PhpOutline
