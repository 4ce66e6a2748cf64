import PhpOutline.Token.Basic

/-! Laws of token texts and line feeds, and what the tests of single tokens say. -/

namespace PhpOutline

/-- No tokens have no text. -/
@[simp] theorem textOf_nil : textOf [] = "" := by
  simp [textOf]

/-- The text of the first token comes first. -/
@[simp] theorem textOf_cons (token : Token) (tokens : List Token) :
    textOf (token :: tokens) = token.text ++ textOf tokens := by
  simp [textOf]

/-- The texts of two lists follow one another. -/
@[simp] theorem textOf_append (left right : List Token) :
    textOf (left ++ right) = textOf left ++ textOf right := by
  simp [textOf]

/-- An empty text has no line feed. -/
@[simp] theorem lineFeeds_empty : lineFeeds "" = 0 := by
  simp [lineFeeds]

/-- The line feeds of joined texts add up. -/
@[simp] theorem lineFeeds_append (left right : String) :
    lineFeeds (left ++ right) = lineFeeds left + lineFeeds right := by
  simp [lineFeeds]

/-- Only the symbol itself passes the test for a symbol. -/
theorem Token.isSymbol_iff {char : Char} {token : Token} :
    token.isSymbol char = true ↔ token = .symbol char := by
  cases token <;> simp [Token.isSymbol]

/-- The tokens of a kind are the typed ones that carry it. -/
theorem Token.isKind_iff {kind : Kind} {token : Token} :
    token.isKind kind = true ↔ ∃ text line, token = .typed kind text line := by
  cases token <;> simp [Token.isKind]

/-- The reserved words of a class are the typed tokens that carry it. -/
theorem Token.isWord_iff {keyword : Keyword} {token : Token} :
    token.isWord keyword = true ↔ ∃ text line, token = .typed (.word keyword) text line :=
  Token.isKind_iff

end PhpOutline
