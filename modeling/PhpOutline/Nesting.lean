import PhpOutline.Token.Basic

/-! The three pairs of delimiters, and where one that opens is closed again. -/

namespace PhpOutline

/-- A pair of characters that open and close a nested part. -/
inductive Delimiter where
  | round
  | curly
  | square
deriving DecidableEq, Repr

/-- The character that opens a nested part. -/
def Delimiter.opener : Delimiter → Char
  -- The three openers are distinct.
  | .round => '('
  | .curly => '{'
  | .square => '['

/-- The character that closes a nested part. -/
def Delimiter.closer : Delimiter → Char
  -- No closer is an opener.
  | .round => ')'
  | .curly => '}'
  | .square => ']'

/-- The pair that a character opens. -/
def Delimiter.ofOpener? (char : Char) : Option Delimiter :=
  -- Any other character opens nothing.
  if char == '(' then some .round
  else if char == '{' then some .curly
  else if char == '[' then some .square
  else none

/-- The pair of delimiters that the first token opens. -/
def openedBy? : List Token → Option Delimiter
  -- A typed token opens nothing, whatever its text.
  | .symbol char :: _ => Delimiter.ofOpener? char
  | _ => none

/-- The offset of the token that closes the outermost of some open parts. -/
def closerFrom (delimiter : Delimiter) : Nat → List Token → Option Nat
  -- Only the two delimiters of the pair change how many parts are open.
  | _, [] => none
  | depth, token :: rest =>
    if token.isSymbol delimiter.opener then
      (closerFrom delimiter (depth + 1) rest).map (· + 1)
    else if token.isSymbol delimiter.closer then
      if depth ≤ 1 then some 0 else (closerFrom delimiter (depth - 1) rest).map (· + 1)
    else (closerFrom delimiter depth rest).map (· + 1)

/-- The offset of the token that closes the part which the first token opens. -/
def closerOffset? (delimiter : Delimiter) (tokens : List Token) : Option Nat :=
  -- Nothing is open before the first token.
  closerFrom delimiter 0 tokens

/-- The offset of the token that closes the part which the token at an offset opens. -/
def closerAt? (tokens : List Token) (offset : Nat) : Option Nat :=
  -- A token that opens nothing is never closed.
  let ahead := tokens.drop offset
  match openedBy? ahead with
  | none => none
  | some delimiter => (closerOffset? delimiter ahead).map (· + offset)

end PhpOutline
