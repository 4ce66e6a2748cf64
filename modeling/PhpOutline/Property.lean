import PhpOutline.Span
import PhpOutline.Token.Excerpt

/-! Properties of classes: where they are declared, and what is known of each. -/

namespace PhpOutline

/-- Whether a token is a modifier of a property. -/
def Token.isPropertyModifier (token : Token) : Bool :=
  -- A property has at least one of these.
  token.isWord .publicWord || token.isWord .protectedWord || token.isWord .privateWord
    || token.isWord .staticWord || token.isWord .varWord || token.isWord .readonlyWord

/-- Whether a token may stand before the variable of a property. -/
def Token.precedesVariable (token : Token) : Bool :=
  -- Modifiers and the parts of a type may, and other reserved words may be types.
  token.isTrivia || token.isPropertyModifier
    || token.isSymbol '?' || token.isSymbol '|' || token.isSymbol '&' || token.isSymbol '('
    || token.isSymbol ')' || token.isKind .identifier || token.isKind .nameSeparator
    || token.isWord .otherWord

/-- How the reading of a statement ended. -/
inductive Reading where
  /-- What was looked for stands at an offset. -/
  | found (offset : Nat)
  /-- Something else stands in the way. -/
  | refused
  /-- The tokens end first. -/
  | truncated
deriving DecidableEq, Repr

/-- The reading of the same tokens with more of them in front. -/
def Reading.shift (count : Nat) : Reading → Reading
  -- Only an offset moves.
  | .found offset => .found (offset + count)
  | reading => reading

/-- Looks for the variable of a property. -/
def variableReading : List Token → Reading
  -- Only modifiers, a type and trivia may come first.
  | [] => .truncated
  | token :: rest =>
    if token.isKind .variableName then .found 0
    else if token.precedesVariable then (variableReading rest).shift 1
    else .refused

/-- Looks for the semicolon that ends a property, after its variable. -/
def semicolonReading (tokens : List Token) : Reading :=
  -- Nested parts are leapt over, and a brace that closes more than was opened refuses.
  match tokens with
  | [] => .truncated
  | token :: rest =>
    if token.isSymbol ';' then .found 0
    else
      match openedBy? (token :: rest) with
      | some delimiter =>
        match closerOffset? delimiter (token :: rest) with
        | some offset => (semicolonReading (rest.drop offset)).shift (offset + 1)
        | none => .truncated
      | none => if token.isSymbol '}' then .refused else (semicolonReading rest).shift 1
termination_by tokens.length

/-- What a statement that starts with a modifier turned out to be. -/
inductive Statement where
  /-- A property with its variable and its semicolon at these offsets. -/
  | declares (variableOffset lastOffset : Nat)
  | other
  | truncated
deriving DecidableEq, Repr

/-- Reads the statement that starts with a modifier. -/
def readStatement (tokens : List Token) : Statement :=
  -- The variable comes first, and the semicolon after it.
  match variableReading tokens with
  | .refused => .other
  | .truncated => .truncated
  | .found variableOffset =>
    match semicolonReading (tokens.drop (variableOffset + 1)) with
    | .refused => .other
    | .truncated => .truncated
    | .found offset => .declares variableOffset (variableOffset + 1 + offset)

/-- Recognizes the declaration of a property, with the comments in front of it. -/
def recognizeProperty (site : Site) : Verdict :=
  -- Functions are leapt over, and a statement that breaks off ends the sweep.
  match site.ahead with
  | [] => .halt
  | token :: after =>
    if token.isWord .functionWord && !followsUse site.behind then
      match declarationEnd after with
      | some stop => .pass (1 + stop)
      | none => .pass 0
    else if token.isPropertyModifier && startsStatement site.behind then
      match readStatement site.ahead with
      | .declares variableOffset lastOffset =>
        let first := site.index - leadingLength (fun _ => false) site.behind
        let span : Span :=
          { first, last := site.index + lastOffset, mark? := some (site.index + variableOffset) }
        .report span lastOffset
      | .other => .pass 0
      | .truncated => .halt
    else .pass 0

/-- The declarations of properties. -/
def propertySpans (tokens : List Token) : List Span :=
  -- The mark of each is the first variable.
  sweep recognizeProperty tokens

/-- What is known of a property. -/
structure Property where
  /-- The name without its dollar sign. -/
  name : String
  docComment? : Option String
  isPublic : Bool
  isProtected : Bool
  isPrivate : Bool
  isStatic : Bool
  /-- The whole declaration as written. -/
  content : String
  firstLine : Nat
  lastLine : Nat
  /-- The lines of the documentation comment. -/
  docLines? : Option (Nat × Nat)
deriving DecidableEq, Repr

/-- What is known of the property that a span declares. -/
def Property.ofSpan (tokens : List Token) (span : Span) : Except Fault Property := do
  -- Modifiers and the documentation stand before the variable.
  let declaration ← excerpt tokens span.first span.last
  let variableOffset := span.mark?.getD span.first - span.first
  let head := declaration.take variableOffset
  let doc? := head.find? (Token.isKind .docComment)
  let (firstLine, lastLine) ← lineBounds declaration
  let written := (declaration[variableOffset]?.map Token.text).getD ""
  return {
    name := String.ofList (written.toList.dropWhile (· == '$'))
    docComment? := doc?.map Token.text
    isPublic := head.any (Token.isWord .publicWord)
    isProtected := head.any (Token.isWord .protectedWord)
    isPrivate := head.any (Token.isWord .privateWord)
    isStatic := head.any (Token.isWord .staticWord)
    content := textOf declaration
    firstLine
    lastLine
    docLines? := do
      let doc ← doc?
      let line ← doc.line?
      return (line, line + lineFeeds doc.text) }

/-- What is known of every property of a list of tokens. -/
def properties (tokens : List Token) : Except Fault (List Property) :=
  -- One record belongs to one span.
  (propertySpans tokens).mapM (Property.ofSpan tokens)

end PhpOutline
