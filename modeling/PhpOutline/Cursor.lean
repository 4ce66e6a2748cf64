import PhpOutline.Fault
import PhpOutline.Nesting
import PhpOutline.Token.Pattern

/-! A position that moves over a list of tokens and may leave it at either end. -/

namespace PhpOutline

/-- A position over a list of tokens. -/
structure Cursor where
  tokens : List Token
  position : Int

/-- The greatest position that can be asked for. -/
def Cursor.limit : Nat :=
  -- Positions fit in a signed word of 64 bits.
  0x7FFFFFFFFFFFFFFF

/-- A cursor on the first token. -/
def Cursor.start (tokens : List Token) : Cursor :=
  -- On an empty list this position is already past the end.
  { tokens, position := 0 }

/-- The index of the token under the cursor, if there is one. -/
def Cursor.index? (cursor : Cursor) : Option Nat :=
  -- A position before the first token or after the last one has no index.
  if 0 ≤ cursor.position && cursor.position < cursor.tokens.length then
    some cursor.position.toNat
  else none

/-- The token under the cursor, if there is one. -/
def Cursor.current? (cursor : Cursor) : Option Token :=
  -- An index is always inside the list.
  cursor.index?.bind fun index => cursor.tokens[index]?

/-- Whether a token stands under the cursor. -/
def Cursor.isValid (cursor : Cursor) : Bool :=
  -- Validity and the index go together.
  cursor.index?.isSome

/-- The cursor one token further, at most right after the last token. -/
def Cursor.next (cursor : Cursor) : Cursor :=
  -- A cursor past the end stays where it is.
  if cursor.position < cursor.tokens.length then
    { cursor with position := cursor.position + 1 }
  else cursor

/-- The cursor one token back, at most right before the first token. -/
def Cursor.back (cursor : Cursor) : Cursor :=
  -- A cursor before the start stays where it is.
  if 0 ≤ cursor.position then { cursor with position := cursor.position - 1 } else cursor

/-- The cursor at an index, which need not be one of a token. -/
def Cursor.seek (cursor : Cursor) (index : Nat) : Cursor :=
  -- An index beyond the limit is cut down to it.
  { cursor with position := (min index Cursor.limit : Nat) }

/-- The cursor past the tokens from it on that pass a test. -/
def Cursor.skipWhile (cursor : Cursor) (test : Token → Bool) : Cursor :=
  -- The first token that fails, or the end of the list, stops the cursor.
  match cursor.index? with
  | none => cursor
  | some index =>
    let run := (cursor.tokens.drop index).takeWhile test
    { cursor with position := index + run.length }

/-- What a walk to a closing delimiter leaves behind. -/
structure Walk where
  /-- Where the walk ended. -/
  cursor : Cursor
  /-- The tokens it met, in order. -/
  visited : List Token
  /-- The cause of failure, if the walk found no closing delimiter. -/
  fault? : Option Fault

/-- Walks from an opening delimiter to the one that closes it. -/
def Cursor.walkToCloser (cursor : Cursor) : Walk :=
  -- Without an opening delimiter the cursor stays, and without a closing one it meets everything.
  match cursor.index? with
  | none => ⟨cursor, [], some (.notAnOpener cursor.tokens.length)⟩
  | some index =>
    let ahead := cursor.tokens.drop index
    match openedBy? ahead with
    | none => ⟨cursor, [], some (.notAnOpener index)⟩
    | some delimiter =>
      match closerOffset? delimiter ahead with
      | some offset =>
        ⟨{ cursor with position := index + offset }, ahead.take (offset + 1), none⟩
      | none =>
        ⟨{ cursor with position := cursor.tokens.length }, ahead, some (.unclosed index delimiter)⟩

end PhpOutline
