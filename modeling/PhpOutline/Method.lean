import PhpOutline.Comment
import PhpOutline.Fault
import PhpOutline.Span

/-! Named functions and methods: where they are declared, and what is known of each. -/

namespace PhpOutline

/-- From where a member can be reached. -/
inductive Visibility where
  /-- From everywhere. -/
  | publicAccess
  /-- From the class and the classes below it. -/
  | protectedAccess
  /-- From the class alone. -/
  | privateAccess
deriving DecidableEq, Repr

/-- The visibility that a kind of token declares. -/
def Visibility.ofKind? : Kind → Option Visibility
  -- Three modifiers declare a visibility.
  | .word .publicWord => some .publicAccess
  | .word .protectedWord => some .protectedAccess
  | .word .privateWord => some .privateAccess
  | _ => none

/-- The name of a visibility. -/
def Visibility.name : Visibility → String
  -- The name is the modifier.
  | .publicAccess => "public"
  | .protectedAccess => "protected"
  | .privateAccess => "private"

/-- Whether a token is a modifier of a method. -/
def Token.isMethodModifier (token : Token) : Bool :=
  -- Modifiers may come in any order.
  token.isWord .publicWord || token.isWord .protectedWord || token.isWord .privateWord
    || token.isWord .staticWord || token.isWord .abstractWord || token.isWord .finalWord

/-- Recognizes the declaration of a named function, with its comments and modifiers. -/
def recognizeMethod (site : Site) : Verdict :=
  -- The mark is the keyword, and nothing inside a declaration is looked at again.
  match site.ahead with
  | [] => .halt
  | token :: after =>
    if token.isWord .functionWord && !followsUse site.behind
        && (functionNameOffset after).isSome then
      match declarationEnd after with
      | some stop =>
        let first := site.index - leadingLength Token.isMethodModifier site.behind
        let span : Span :=
          { first, last := site.index + 1 + stop, mark? := some site.index }
        .report span (1 + stop)
      | none => .pass 0
    else .pass 0

/-- The declarations of named functions. -/
def methodSpans (tokens : List Token) : List Span :=
  -- Closures have no name and are passed over.
  sweep recognizeMethod tokens

/-- What is known of a method. -/
structure Method where
  name : String
  visibility : Visibility
  isAbstract : Bool
  isFinal : Bool
  isStatic : Bool
  firstLine : Nat
  lastLine : Nat
  /-- The body with its braces, empty when there is none. -/
  content : String
  /-- The parameters with their parentheses. -/
  parameters : String
  comment? : Option Comment
  /-- The index of the first token of the declaration. -/
  firstIndex : Nat
deriving DecidableEq, Repr

/-- Whether a token may stand between the keyword of a function and its name. -/
def Token.precedesName (token : Token) : Bool :=
  -- Any number of ampersands is taken.
  token.isTrivia || token.isSymbol '&'

/-- The texts of the parameters and of the body of a method, as far as they are read. -/
structure MethodParts where
  parameters? : Option String := none
  body? : Option String := none

/-- The delimiter of the part that is still missing and opens with a token. -/
def MethodParts.opens? (parts : MethodParts) (token : Token) : Option Delimiter :=
  -- Each part is read once.
  if parts.parameters?.isNone && token.isSymbol '(' then some .round
  else if parts.body?.isNone && token.isSymbol '{' then some .curly
  else none

/-- The parts after one of them has been read. -/
def MethodParts.add (parts : MethodParts) (delimiter : Delimiter) (text : String) : MethodParts :=
  -- Parentheses hold the parameters, braces the body.
  match delimiter with
  | .round => { parts with parameters? := some text }
  | _ => { parts with body? := some text }

/-- Reads the parts of a method from the tokens after its name, the first of them at an index. -/
def readParts (parts : MethodParts) (index : Nat) (tokens : List Token) :
    Except Fault MethodParts :=
  -- A part is taken whole, so nothing inside it opens another part.
  match tokens with
  | [] => .ok parts
  | token :: rest =>
    match parts.opens? token with
    | none => readParts parts (index + 1) rest
    | some delimiter =>
      match closerOffset? delimiter (token :: rest) with
      | none => .error (.unclosed index delimiter)
      | some offset =>
        readParts (parts.add delimiter (textOf ((token :: rest).take (offset + 1))))
          (index + offset + 1) (rest.drop offset)
termination_by tokens.length

/-- Reads the tokens of a declaration that starts at an index. -/
def Method.ofDeclaration (firstIndex : Nat) (declaration : List Token) : Except Fault Method := do
  -- What stands before the keyword describes the method, and what follows names it.
  let head := declaration.takeWhile fun token => !token.isWord .functionWord
  match declaration.drop head.length with
  | [] => .error (.noFunction 0)
  | keyword :: after =>
    let skipped := (after.takeWhile Token.precedesName).length
    let nameIndex := head.length + 1 + skipped
    match after.drop skipped with
    | [] => .error (.unnamedFunction nameIndex)
    | named :: rest =>
      if !named.namesFunction then .error (.unnamedFunction nameIndex)
      else
        let parts ← readParts {} (nameIndex + 1) rest
        let lineOf := fun (test : Token → Bool) =>
          (head ++ [keyword]).find? test |>.bind Token.line?
        let visibility? := head.findSome? fun token => token.kind?.bind Visibility.ofKind?
        let visibleLine? := lineOf fun token => (token.kind?.bind Visibility.ofKind?).isSome
        let otherLine? := lineOf fun token =>
          token.isWord .abstractWord || token.isWord .finalWord || token.isWord .staticWord
            || token.isWord .functionWord
        match visibleLine? <|> otherLine? with
        | none => .error (.noStartLine 0 named.text)
        | some firstLine =>
          let content := parts.body?.getD ""
          .ok
            { name := named.text
              visibility := visibility?.getD .publicAccess
              isAbstract := head.any (Token.isWord .abstractWord)
              isFinal := head.any (Token.isWord .finalWord)
              isStatic := head.any (Token.isWord .staticWord)
              firstLine
              lastLine := firstLine + lineFeeds content
              content
              parameters := parts.parameters?.getD ""
              comment? := head.findSome? Comment.ofToken?
              firstIndex }

/-- What is known of every method of a list of tokens. -/
def methods (tokens : List Token) : Except Fault (List Method) :=
  -- Causes of failure point into the whole list.
  (methodSpans tokens).mapM fun span =>
    (Method.ofDeclaration span.first (span.tokens tokens)).mapError (Fault.shift span.first)

end PhpOutline
