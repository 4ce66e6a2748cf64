import PhpOutline.Folder.Scan
import PhpOutline.Report.Record

/-! Reports for a program to read. -/

namespace PhpOutline

/-- A file that was left out, as JSON. -/
def SkippedFile.toJson (file : SkippedFile) : Json :=
  -- The message says why.
  .object [("path", .text file.path), ("error", .text file.message)]

/-- The imports of a folder as JSON. -/
def importsJson (path : String) (result : ScanResult (List String)) : Json :=
  -- Files that were left out are only mentioned when there are some.
  let skipped := if result.isComplete then []
    else [("failures", Json.array (result.skipped.map SkippedFile.toJson))]
  .object <|
    [("version", .text reportVersion), ("path", .text path),
     ("files_scanned", .number result.fileCount), ("dependencies", Json.texts result.value)]
    ++ skipped

/-- A token as JSON. -/
def Token.toJson (token : Token) : Json :=
  -- A symbol has neither kind nor line.
  .object <|
    (token.kind?.map fun kind => ("kind", Json.text kind.name)).toList
    ++ [("text", .text token.text)]
    ++ (token.line?.map fun line => ("line", Json.number line)).toList

/-- The tokens of a file as JSON. -/
def tokensJson (path : String) (tokens : List Token) : Json :=
  -- The tokens keep their order.
  .object
    [("version", .text reportVersion), ("path", .text path),
     ("tokens", .array (tokens.map Token.toJson))]

/-- The place of a class as JSON. -/
def locationJson (className : String) (path? : Option String) : Json :=
  -- A class that is not found has no file.
  .object
    [("version", .text reportVersion), ("class", .text className),
     ("file", Json.ofOption .text path?)]

/-- The text of a report in JSON. -/
def Json.document (json : Json) : String :=
  -- The report ends with a line feed.
  json.render 0 ++ "\n"

end PhpOutline
