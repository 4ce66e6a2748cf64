import PhpOutline.Fault
import PhpOutline.Text.Basic
import PhpOutline.Text.Quoted
import PhpOutline.Token.Pattern

/-! Excerpts of a list of tokens: ranges, trimmed lists, groups, line bounds and listings. -/

namespace PhpOutline

/-- The tokens from one index to another, both included. -/
def excerpt (tokens : List Token) (first last : Nat) : Except Fault (List Token) :=
  -- A range that reaches past the last token is cut down.
  if last < first then .error (.reversedRange first last)
  else .ok ((tokens.take (last + 1)).drop first)

/-- The tokens without the leading ones that pass a pattern. -/
def trimLeft (pattern : Pattern) (tokens : List Token) : List Token :=
  -- The first token that fails stays, with all that follows.
  tokens.dropWhile pattern.accepts

/-- The tokens without the trailing ones that pass a pattern. -/
def trimRight (pattern : Pattern) (tokens : List Token) : List Token :=
  -- Trimming the reversed list at its front trims the list at its back.
  (tokens.reverse.dropWhile pattern.accepts).reverse

/-- The tokens without the outer ones that pass a pattern. -/
def trimBoth (pattern : Pattern) (tokens : List Token) : List Token :=
  -- Both ends lose their longest run.
  trimRight pattern (trimLeft pattern tokens)

/-- The groups between the tokens that pass a pattern, cut at most so often as a limit says. -/
def splitTokens (pattern : Pattern) (tokens : List Token) (limit : Option Nat) :
    List (List Token) :=
  -- Tokens beyond the limit stay in the last group, delimiters included.
  splitAtMost pattern.accepts limit tokens

/-- The lines of the first and of the last token that have one. -/
def lineBounds (tokens : List Token) : Except Fault (Nat × Nat) :=
  -- Symbols carry no line, so a list of symbols has no bounds.
  match tokens.filterMap Token.line? with
  | [] => .error .noLines
  | first :: rest => .ok (first, rest.getLastD first)

/-- A token as it stands in a listing. -/
def Token.describe : Token → String
  -- A symbol is listed bare, a typed token with kind, quoted text and line.
  | .symbol char => String.singleton char
  | .typed kind text line =>
    let name := kind.name
    let quoted := quote text
    s!"{name}({quoted})@{line}"

end PhpOutline
