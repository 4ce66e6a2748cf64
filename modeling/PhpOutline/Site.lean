import PhpOutline.Nesting
import PhpOutline.Token.Basic

/-! Sites: a place in a list of tokens, with what stands behind it and what lies ahead. -/

namespace PhpOutline

/-- A place between the tokens of a list. -/
structure Site where
  /-- The tokens before the place, nearest first. -/
  behind : List Token
  /-- The tokens from the place on. -/
  ahead : List Token

/-- The site right before the token at an index. -/
def Site.at (tokens : List Token) (index : Nat) : Site :=
  -- An index past the end gives the site after the last token.
  ⟨(tokens.take index).reverse, tokens.drop index⟩

/-- The index of the token that lies right ahead. -/
def Site.index (site : Site) : Nat :=
  -- As many tokens stand behind as indices come before.
  site.behind.length

/-- The site some tokens further on. -/
def Site.advance (site : Site) (count : Nat) : Site :=
  -- The tokens passed over are then behind, in reverse.
  ⟨(site.ahead.take count).reverse ++ site.behind, site.ahead.drop count⟩

/-- The offset of the first token from an offset on that is no trivia. -/
def significantFrom (tokens : List Token) (offset : Nat) : Option Nat :=
  -- Trivia is skipped wherever only structure matters.
  ((tokens.drop offset).findIdx? fun token => !token.isTrivia).map (· + offset)

/-- The offset of the first token from an offset on that passes a test. -/
def findFrom (test : Token → Bool) (tokens : List Token) (offset : Nat) : Option Nat :=
  -- The search has no bound but the end of the list.
  ((tokens.drop offset).findIdx? test).map (· + offset)

/-- The nearest token behind a site that is no trivia. -/
def significantBehind (behind : List Token) : Option Token :=
  -- The tokens behind are listed nearest first.
  behind.find? fun token => !token.isTrivia

/-- Whether a token ends what comes before a statement. -/
def Token.endsStatement (token : Token) : Bool :=
  -- The tag that echoes is followed by an expression, so it does not count.
  token.isSymbol ';' || token.isSymbol '{' || token.isSymbol '}' || token.isKind .openTag
    || token.isKind .closeTag

/-- Whether a statement starts after the tokens behind, read from inside some attribute brackets. -/
def startsStatementFrom : Nat → List Token → Bool
  -- A bracket and the mark of a group both open, and only the mark opens an attribute group.
  | depth, [] => depth == 0
  | 0, token :: rest =>
    if token.isTrivia then startsStatementFrom 0 rest
    else if token.isSymbol ']' then startsStatementFrom 1 rest
    else token.endsStatement
  | depth + 1, token :: rest =>
    if token.isSymbol ']' then startsStatementFrom (depth + 2) rest
    else if token.isKind .attributeOpen then startsStatementFrom depth rest
    else if token.isSymbol '[' then depth != 0 && startsStatementFrom depth rest
    else startsStatementFrom (depth + 1) rest

/-- Whether a statement starts right after the tokens behind a site. -/
def startsStatement (behind : List Token) : Bool :=
  -- Attribute groups in front of a declaration are looked through, one after the other.
  startsStatementFrom 0 behind

/-- Whether a word with these tokens behind it marks what an import brings in. -/
def followsUse (behind : List Token) : Bool :=
  -- Only the nearest significant token is looked at.
  (significantBehind behind).any (Token.isWord .useWord)

/-- The offset of the name that follows a declaring keyword, if its token is acceptable. -/
def nameOffset (accept : Token → Bool) (after : List Token) : Option Nat := do
  -- An ampersand may stand between the keyword and the name.
  let first ← significantFrom after 0
  let offset ← if after[first]?.any (Token.isSymbol '&') then significantFrom after (first + 1)
    else some first
  if after[offset]?.any accept then some offset else none

/-- Whether a token may name a class. -/
def Token.namesClass (token : Token) : Bool :=
  -- The word for enumerations is only reserved in part.
  token.isKind .identifier || token.isWord .enumWord

/-- Whether a token may name a function. -/
def Token.namesFunction : Token → Bool
  -- Reserved words are valid names of methods.
  | .symbol _ => false
  | .typed kind _ _ => kind == .identifier || kind.isReserved

/-- The offset of the name of a class after its keyword. -/
def classNameOffset (after : List Token) : Option Nat :=
  -- Without a name the class is anonymous.
  nameOffset Token.namesClass after

/-- The offset of the name of a function after its keyword. -/
def functionNameOffset (after : List Token) : Option Nat :=
  -- Without a name the function is a closure.
  nameOffset Token.namesFunction after

/-- The offset, after the keyword of a function, of the last token of its declaration. -/
def declarationEnd (after : List Token) : Option Nat := do
  -- A body ends the declaration, else a semicolon, and what is never closed runs to the last token.
  let parameters ← after.findIdx? (Token.isSymbol '(')
  let last := after.length - 1
  let close := closerAt? after parameters
  let stop := close.bind fun close =>
    findFrom (fun token => token.isSymbol '{' || token.isSymbol ';') after (close + 1)
  match stop with
  | none => some last
  | some stop =>
    if after[stop]?.any (Token.isSymbol ';') then some stop
    else some ((closerAt? after stop).getD last)

/-- The number of tokens behind a declaration that belong to it. -/
def leadingLength (isModifier : Token → Bool) (behind : List Token) : Nat :=
  -- Comments and modifiers belong to it, and the white space in front of them does not.
  let run := behind.takeWhile fun token => token.isTrivia || isModifier token
  (run.reverse.dropWhile (Token.isKind .whitespace)).length

end PhpOutline
