import PhpOutline.Token.Basic
import PhpOutline.Token.Lexeme

/-! Tokenizing: a source text cut into tokens without loss. -/

namespace PhpOutline

/-- What the text at a place is read as. -/
inductive Mode where
  /-- Text outside the tags, which is passed on as it stands. -/
  | html
  | code
deriving DecidableEq, Repr

/-- The extent of the next token, and its kind unless it is a bare symbol. -/
structure Lexeme where
  kind? : Option Kind
  length : Nat

/-- The number of characters before the first tag that enters code. -/
def htmlLength : List Char → Nat
  -- Without a tag everything up to the end counts.
  | [] => 0
  | char :: rest => if 0 < openTagLength (char :: rest) then 0 else htmlLength rest + 1

/-- The next lexeme of text outside the tags. -/
def htmlLexeme (chars : List Char) : Lexeme :=
  -- Plain text comes first, and only a tag at the very front is a tag.
  let html := htmlLength chars
  if 0 < html then ⟨some .inlineHtml, html⟩
  else
    let tag := openTagLength chars
    ⟨some (if chars.take tag == ['<', '?', '='] then .echoTag else .openTag), tag⟩

/-- The lexeme that a rule cuts off, if the rule applies. -/
def LexicalRule.lexeme? (chars : List Char) (rule : LexicalRule) : Option Lexeme :=
  -- A rule that takes nothing does not apply.
  let length := rule.length chars
  if 0 < length then some ⟨some (rule.kind (String.ofList (chars.take length))), length⟩ else none

/-- The next lexeme of code. -/
def codeLexeme (chars : List Char) : Lexeme :=
  -- What no rule takes is a symbol of one character.
  (lexicalRules.findSome? (LexicalRule.lexeme? chars)).getD ⟨none, 1⟩

/-- The next lexeme of a text that is not empty. -/
def nextLexeme (mode : Mode) (chars : List Char) : Lexeme :=
  -- The mode alone decides which rules apply.
  match mode with
  | .html => htmlLexeme chars
  | .code => codeLexeme chars

/-- The mode in which the text after a lexeme is read. -/
def Lexeme.nextMode (lexeme : Lexeme) : Mode :=
  -- Code goes on until a tag leaves it, and plain text until a tag enters code.
  if lexeme.kind? == some .closeTag || lexeme.kind? == some .inlineHtml then .html else .code

/-- Plain text that stops at once has a tag at its front. -/
theorem openTagLength_pos_of_htmlLength (char : Char) (rest : List Char)
    (stopped : htmlLength (char :: rest) = 0) : 0 < openTagLength (char :: rest) := by
  -- Otherwise the first character would be counted.
  unfold htmlLength at stopped
  split at stopped <;> simp_all

/-- A lexeme of code is cut off by one of the rules, or is a symbol of one character. -/
theorem codeLexeme_cases (chars : List Char) :
    (∃ rule ∈ lexicalRules, 0 < rule.length chars ∧
      codeLexeme chars =
        ⟨some (rule.kind (String.ofList (chars.take (rule.length chars)))), rule.length chars⟩) ∨
    codeLexeme chars = ⟨none, 1⟩ := by
  -- The first rule that takes anything decides.
  cases applied : lexicalRules.findSome? (LexicalRule.lexeme? chars) with
  | none => exact .inr (by simp [codeLexeme, applied])
  | some lexeme =>
    obtain ⟨rule, listed, cut⟩ := List.exists_of_findSome?_eq_some applied
    simp only [LexicalRule.lexeme?] at cut
    split at cut
    · rename_i taken
      simp only [Option.some.injEq] at cut
      exact .inl ⟨rule, listed, taken, by simp [codeLexeme, applied, cut]⟩
    · simp at cut

/-- Every lexeme of a text that is not empty takes at least one character. -/
theorem nextLexeme_length_pos (mode : Mode) (char : Char) (rest : List Char) :
    0 < (nextLexeme mode (char :: rest)).length := by
  -- Plain text and tags take what they count, and a rule that takes nothing does not apply.
  cases mode with
  | html =>
    simp only [nextLexeme, htmlLexeme]
    split
    · assumption
    · exact openTagLength_pos_of_htmlLength char rest (by omega)
  | code =>
    rw [nextLexeme]
    rcases codeLexeme_cases (char :: rest) with ⟨rule, _, taken, cut⟩ | symbol
    · rw [cut]
      exact taken
    · simp [symbol]

/-- The tokens of a text that is read in a mode and starts on a line. -/
def tokenizeFrom (mode : Mode) (line : Nat) (chars : List Char) : List Token :=
  -- Each round cuts one lexeme off and goes on with what is left.
  match chars with
  | [] => []
  | char :: rest =>
    let lexeme := nextLexeme mode (char :: rest)
    let text := (char :: rest).take lexeme.length
    let token :=
      match lexeme.kind? with
      | some kind => Token.typed kind (String.ofList text) line
      | none => Token.symbol char
    token :: tokenizeFrom lexeme.nextMode (line + text.count '\n')
      ((char :: rest).drop lexeme.length)
termination_by chars.length
decreasing_by
  have taken := nextLexeme_length_pos mode char rest
  simp only [List.length_drop, List.length_cons]
  omega

/-- The tokens of a source text. -/
def tokenize (source : String) : List Token :=
  -- A source starts outside the tags, on line one.
  tokenizeFrom .html 1 source.toList

end PhpOutline
