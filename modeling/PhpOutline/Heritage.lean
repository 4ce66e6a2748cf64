import PhpOutline.Import
import PhpOutline.Token.Excerpt

/-! What a class inherits from: its parent and its interfaces, by short and by full name. -/

namespace PhpOutline

/-- Whether a token is part of a plain qualified name. -/
def Token.isPlainNamePart (token : Token) : Bool :=
  -- Reserved words end such a name.
  token.isKind .identifier || token.isKind .nameSeparator

/-- The first and last offset of the qualified name that comes first, trivia aside. -/
def qualifiedNameOffsets (after : List Token) : Option (Nat × Nat) := do
  -- The name runs on without trivia inside it.
  let start ← significantFrom after 0
  let length := ((after.drop start).takeWhile Token.isPlainNamePart).length
  if 0 < length then some (start, start + length - 1) else none

/-- Recognizes the name of a parent class. -/
def recognizeParent (site : Site) : Verdict :=
  -- The keyword follows a declared name, or the keyword of an anonymous class.
  match site.ahead with
  | [] => .halt
  | token :: after =>
    let declared := (significantBehind site.behind).any fun before =>
      before.isKind .identifier || before.isWord .classWord
    if token.isWord .extendsWord && declared then
      match qualifiedNameOffsets after with
      | some (start, stop) =>
        .report { first := site.index + 1 + start, last := site.index + 1 + stop } (1 + stop)
      | none => .pass 0
    else .pass 0

/-- The names of parent classes. -/
def parentSpans (tokens : List Token) : List Span :=
  -- Of several parents of an interface only the first is found.
  sweep recognizeParent tokens

/-- Recognizes the list of interfaces that a class implements. -/
def recognizeInterfaces (site : Site) : Verdict :=
  -- The list ends before the brace of the body, without the white space in between.
  match site.ahead with
  | [] => .halt
  | token :: after =>
    if token.isWord .implementsWord then
      match significantFrom after 0 with
      | none => .halt
      | some start =>
        match findFrom (fun next => next.isSymbol '{' || next.isSymbol ';') after start with
        | none => .halt
        | some brace =>
          if after[brace]?.any (Token.isSymbol '{') && start < brace then
            let names := (after.take brace).drop start
            let length := (names.reverse.dropWhile (Token.isKind .whitespace)).length
            .report
              { first := site.index + 1 + start, last := site.index + start + length } (1 + brace)
          else .pass (1 + brace)
    else .pass 0

/-- The lists of interfaces that classes implement. -/
def interfaceSpans (tokens : List Token) : List Span :=
  -- One list belongs to one class.
  sweep recognizeInterfaces tokens

/-- The part of a name after its last backslash. -/
def lastSegment (name : String) : String :=
  -- A name without a backslash is its own last part.
  String.ofList (name.toList.reverse.takeWhile (· != '\\')).reverse

/-- What short names are completed with. -/
structure NameScope where
  /-- The imported names in increasing order. -/
  imported : List String
  space? : Option String

/-- The scope of a list of tokens. -/
def NameScope.of (tokens : List Token) : NameScope :=
  -- The order in which imports are written plays no part.
  ⟨imports true tokens, namespaceName? tokens⟩

/-- The full name for a short one. -/
def NameScope.qualify (scope : NameScope) (name : String) : String :=
  -- The greatest import that ends in the name wins over the namespace.
  match scope.imported.reverse.find? fun imported => lastSegment imported == name with
  | some imported => imported
  | none =>
    match scope.space? with
    | some space => space ++ "\\" ++ stripLeadingSeparators name
    | none => name

/-- The name of the first parent class, in full if that is asked for. -/
def parentName? (qualified : Bool) (tokens : List Token) : Option String :=
  -- Later parents are not reported.
  match parentSpans tokens with
  | [] => none
  | span :: _ =>
    let name := span.text tokens
    some (if qualified then (NameScope.of tokens).qualify name else name)

/-- The names in the first list of interfaces, in full if that is asked for. -/
def interfaceNames (qualified : Bool) (tokens : List Token) : List String :=
  -- Commas part the names, and only white space around a name is dropped.
  match interfaceSpans tokens with
  | [] => []
  | span :: _ =>
    let groups := splitTokens (.symbol ',') (span.tokens tokens) none
    let names := groups.map fun group => textOf (trimBoth .whitespace group)
    let names := names.filter fun name => !name.isEmpty
    if qualified then names.map (NameScope.of tokens).qualify else names

/-- Full names are the short ones completed in the scope of the list. -/
theorem interfaceNames_qualified (tokens : List Token) :
    interfaceNames true tokens =
      (interfaceNames false tokens).map (NameScope.of tokens).qualify := by
  -- Both kinds of names come from the same list, and without a list there are none.
  rw [interfaceNames, interfaceNames]
  cases interfaceSpans tokens <;> rfl

end PhpOutline
