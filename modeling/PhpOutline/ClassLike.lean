import PhpOutline.Namespace
import PhpOutline.Span

/-! Named classes, interfaces, traits and enumerations, and their bodies. -/

namespace PhpOutline

/-- Whether a site is at the keyword of a class, interface, trait or enumeration with a name. -/
def declaresClass (site : Site) : Bool :=
  -- Class constants and anonymous classes use the same keyword.
  match site.ahead with
  | [] => false
  | token :: after =>
    token.kind?.any Kind.isClassLike
      && !(significantBehind site.behind).any
        (fun before => before.isKind .doubleColon || before.isWord .newWord)
      && (classNameOffset after).isSome

/-- Which declarations besides classes have their names reported. -/
structure ClassFilter where
  interfaces : Bool := false
  traits : Bool := false
deriving DecidableEq, Repr

/-- Whether the name after a keyword is to be reported. -/
def ClassFilter.wants (filter : ClassFilter) (token : Token) : Bool :=
  -- Enumerations are never reported.
  match token.kind? with
  | some (.word .classWord) => true
  | some (.word .interfaceWord) => filter.interfaces
  | some (.word .traitWord) => filter.traits
  | _ => false

/-- Recognizes the name of a declared class. -/
def recognizeClassName (filter : ClassFilter) (site : Site) : Verdict :=
  -- The span is the single token of the name.
  match site.ahead with
  | [] => .halt
  | token :: after =>
    if filter.wants token && declaresClass site then
      match classNameOffset after with
      | some offset =>
        let name := site.index + 1 + offset
        .report { first := name, last := name } (1 + offset)
      | none => .pass 0
    else .pass 0

/-- The names of the declared classes. -/
def classNameSpans (filter : ClassFilter) (tokens : List Token) : List Span :=
  -- The names come in the order of their declarations.
  sweep (recognizeClassName filter) tokens

/-- Recognizes the brace that opens the body of a named declaration. -/
def recognizeClassBrace (site : Site) : Verdict :=
  -- The mark is the keyword, and without any further brace no body can follow.
  match site.ahead with
  | [] => .halt
  | _ :: after =>
    if declaresClass site then
      match after.findIdx? (Token.isSymbol '{') with
      | some offset =>
        let brace := site.index + 1 + offset
        .report { first := brace, last := brace, mark? := some site.index } (1 + offset)
      | none => .halt
    else .pass 0

/-- The braces that open the bodies of named declarations. -/
def classBraceSpans (tokens : List Token) : List Span :=
  -- Two keywords in front of one brace share it.
  sweep recognizeClassBrace tokens

/-- The indices of the braces around a body. -/
structure Body where
  opening : Nat
  closing : Nat
deriving DecidableEq, Repr

/-- The bodies of the named declarations. -/
def classBodies (tokens : List Token) : List Body :=
  -- A body that is never closed reaches to the last token.
  (classBraceSpans tokens).map fun span =>
    ⟨span.first, (closerAt? tokens span.first).getD (tokens.length - 1)⟩

/-- Whether an index lies on or between the braces of a body. -/
def Body.contains (body : Body) (index : Nat) : Bool :=
  -- The braces themselves belong to the body.
  body.opening ≤ index && index ≤ body.closing

/-- The names of the declared classes, each behind the namespace if that is asked for. -/
def classNames (qualified : Bool) (filter : ClassFilter) (tokens : List Token) : List String :=
  -- Without a namespace the short names are the full ones.
  let names := (classNameSpans filter tokens).map fun span => span.text tokens
  match namespaceName? tokens with
  | some space => if qualified then names.map fun name => space ++ "\\" ++ name else names
  | none => names

end PhpOutline
