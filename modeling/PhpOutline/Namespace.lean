import PhpOutline.Span

/-! Namespace declarations. -/

namespace PhpOutline

/-- The offset of the token that ends a namespace declaration, after its keyword. -/
def namespaceEnd : List Token → Option Nat
  -- Only a name and trivia may stand before the semicolon or brace.
  | [] => none
  | token :: rest =>
    if token.isSymbol ';' || token.isSymbol '{' then some 0
    else if token.isTrivia || token.isNamePart then (namespaceEnd rest).map (· + 1)
    else none

/-- Recognizes a namespace declaration from its keyword to its semicolon or brace. -/
def recognizeNamespace (site : Site) : Verdict :=
  -- A backslash right after the keyword makes it part of a relative name.
  match site.ahead with
  | [] => .halt
  | token :: after =>
    if token.isWord .namespaceWord
        && after.head?.any (fun next => next.isTrivia || next.isSymbol '{') then
      match namespaceEnd after with
      | some stop => .report { first := site.index, last := site.index + 1 + stop } (1 + stop)
      | none => .pass 0
    else .pass 0

/-- The namespace declarations of a list of tokens. -/
def namespaceSpans (tokens : List Token) : List Span :=
  -- Several declarations may follow one another.
  sweep recognizeNamespace tokens

/-- The name of the first namespace that is declared, if it has one. -/
def namespaceName? (tokens : List Token) : Option String :=
  -- The name is what stands between the keyword and the end, without trivia.
  match namespaceSpans tokens with
  | [] => none
  | span :: _ =>
    let inner := (span.tokens tokens).tail.dropLast
    let name := textOf (inner.filter fun token => !token.isTrivia)
    if name.isEmpty then none else some name

end PhpOutline
