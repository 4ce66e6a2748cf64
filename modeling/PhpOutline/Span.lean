import PhpOutline.Site

/-! Spans of tokens, and the sweep that collects them from a list. -/

namespace PhpOutline

/-- An inclusive range of token indices, with the index of a token that stands out. -/
structure Span where
  first : Nat
  last : Nat
  mark? : Option Nat := none
deriving DecidableEq, Repr

/-- The tokens of a span. -/
def Span.tokens (span : Span) (tokens : List Token) : List Token :=
  -- Both ends belong to the span.
  (tokens.take (span.last + 1)).drop span.first

/-- The text of a span. -/
def Span.text (span : Span) (tokens : List Token) : String :=
  -- Trivia inside the span is part of its text.
  textOf (span.tokens tokens)

/-- What a recognizer decides about a site. -/
inductive Verdict where
  /-- Nothing is reported, and the sweep goes on after the token at an offset. -/
  | pass (last : Nat)
  /-- A span is reported, and the sweep goes on after the token at an offset. -/
  | report (span : Span) (last : Nat)
  /-- Nothing further can be found. -/
  | halt

/-- The spans that a recognizer reports in the tokens ahead of a site. -/
def sweepFrom (recognize : Site → Verdict) (behind ahead : List Token) : List Span :=
  -- Every verdict but the last one takes at least one token.
  match ahead with
  | [] => []
  | token :: rest =>
    let passed := fun last => ((token :: rest).take (last + 1)).reverse ++ behind
    match recognize ⟨behind, token :: rest⟩ with
    | .pass last => sweepFrom recognize (passed last) (rest.drop last)
    | .report span last => span :: sweepFrom recognize (passed last) (rest.drop last)
    | .halt => []
termination_by ahead.length

/-- The spans that a recognizer reports in a list of tokens, in order. -/
def sweep (recognize : Site → Verdict) (tokens : List Token) : List Span :=
  -- The sweep starts with nothing behind it.
  sweepFrom recognize [] tokens

end PhpOutline
