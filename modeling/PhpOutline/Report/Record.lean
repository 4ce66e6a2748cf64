import PhpOutline.Json
import PhpOutline.Outline

/-! The records of a report as JSON. -/

namespace PhpOutline

/-- The version that reports carry. -/
def reportVersion : String :=
  -- Readers of a report tell its shape by this.
  "0.1.0"

/-- A comment as JSON. -/
def Comment.toJson (comment : Comment) : Json :=
  -- Both lines are given.
  .object
    [("kind", .text comment.sort.name), ("text", .text comment.text),
     ("start_line", .number comment.firstLine), ("end_line", .number comment.lastLine)]

/-- A property as JSON. -/
def Property.toJson (property : Property) : Json :=
  -- A property without documentation has null for its text and lines.
  .object
    [("var_name", .text property.name),
     ("has_doc_comment", .bool property.docComment?.isSome),
     ("doc_comment", Json.ofOption .text property.docComment?),
     ("is_public", .bool property.isPublic),
     ("is_protected", .bool property.isProtected),
     ("is_private", .bool property.isPrivate),
     ("is_static", .bool property.isStatic),
     ("content", .text property.content),
     ("start_line", .number property.firstLine),
     ("end_line", .number property.lastLine),
     ("comment_start_line", Json.ofOption .number (property.docLines?.map Prod.fst)),
     ("comment_end_line", Json.ofOption .number (property.docLines?.map Prod.snd))]

/-- A method as JSON. -/
def Method.toJson (method : Method) : Json :=
  -- The body and the parameters are given as written.
  .object
    [("name", .text method.name),
     ("visibility", .text method.visibility.name),
     ("is_abstract", .bool method.isAbstract),
     ("is_final", .bool method.isFinal),
     ("is_static", .bool method.isStatic),
     ("method_start_line", .number method.firstLine),
     ("method_end_line", .number method.lastLine),
     ("content", .text method.content),
     ("args", .text method.parameters),
     ("comment", Json.ofOption Comment.toJson method.comment?),
     ("start_index", .number method.firstIndex)]

/-- An outline as JSON. -/
def Outline.toJson (outline : Outline) : Json :=
  -- Only the outline of a file has a path.
  let path := (outline.path?.map fun path => ("path", Json.text path)).toList
  .object <|
    [("version", .text reportVersion)] ++ path ++
    [("namespace", Json.ofOption .text outline.space?),
     ("classes", Json.texts outline.classes),
     ("parent", Json.ofOption .text outline.parent?),
     ("interfaces", Json.texts outline.interfaces),
     ("uses", Json.texts outline.imports),
     ("properties", .array (outline.properties.map Property.toJson)),
     ("methods", .array (outline.methods.map Method.toJson))]

end PhpOutline
