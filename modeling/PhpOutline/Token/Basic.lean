import PhpOutline.Token.Kind

/-! Tokens: bare symbols, and typed pieces of text that know the line they start on. -/

namespace PhpOutline

/-- One lexical unit of a source text. -/
inductive Token where
  /-- A single character with neither kind nor line. -/
  | symbol (char : Char)
  /-- A kind, the text as written and the line of its first character, counted from one. -/
  | typed (kind : Kind) (text : String) (line : Nat)
deriving DecidableEq, Repr

/-- The text of a token as written. -/
def Token.text : Token → String
  -- A symbol is its own text.
  | .symbol char => String.singleton char
  | .typed _ text _ => text

/-- The kind of a token, which a symbol lacks. -/
def Token.kind? : Token → Option Kind
  -- Only typed tokens have a kind.
  | .symbol _ => none
  | .typed kind _ _ => some kind

/-- The line of a token, which a symbol lacks. -/
def Token.line? : Token → Option Nat
  -- Only typed tokens have a line.
  | .symbol _ => none
  | .typed _ _ line => some line

/-- Whether a token is of the given kind. -/
def Token.isKind (kind : Kind) : Token → Bool
  -- A symbol is of no kind.
  | .symbol _ => false
  | .typed own _ _ => own == kind

/-- Whether a token is a reserved word of the given class. -/
def Token.isWord (keyword : Keyword) (token : Token) : Bool :=
  -- Reserved words are kinds.
  token.isKind (.word keyword)

/-- Whether a token is the given symbol. -/
def Token.isSymbol (char : Char) : Token → Bool
  -- A typed token is never a symbol, whatever its text.
  | .symbol own => own == char
  | .typed _ _ _ => false

/-- Whether a token is white space or a comment. -/
def Token.isTrivia : Token → Bool
  -- Trivia never decides which declarations are seen.
  | .symbol _ => false
  | .typed kind _ _ => kind == .whitespace || kind.isComment

/-- Whether a token may be part of a name, qualified or not. -/
def Token.isNamePart : Token → Bool
  -- Reserved words may stand inside a qualified name.
  | .symbol _ => false
  | .typed kind _ _ => kind == .identifier || kind == .nameSeparator || kind.isReserved

/-- The text of a list of tokens, one after the other. -/
def textOf (tokens : List Token) : String :=
  -- Nothing stands between neighbouring tokens.
  String.join (tokens.map Token.text)

/-- The number of line feeds in a text. -/
def lineFeeds (text : String) : Nat :=
  -- A carriage return alone does not end a line.
  text.toList.count '\n'

end PhpOutline
