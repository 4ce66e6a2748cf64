import PhpOutline.Proofs.Token.Tokenize

/-!
The rounds of the tokenizer, one for each token.

The token right before a place decides the mode there, and the rest of the text decides the token.
So whatever holds of every lexeme of a mode holds of every token that follows such a token.
-/

namespace PhpOutline

/-- The mode in which the text after a token is read. -/
def Token.nextMode (token : Token) : Mode :=
  -- A symbol stands in code and is followed by code.
  if token.isKind .closeTag || token.isKind .inlineHtml then .html else .code

/-- The mode in which the text after some tokens is read, from a mode on. -/
def modeBehind (mode : Mode) (before : List Token) : Mode :=
  -- Only the last token counts.
  before.foldl (fun _ token => token.nextMode) mode

/-- Each token sets the mode anew. -/
@[simp] theorem modeBehind_concat (mode : Mode) (before : List Token) (token : Token) :
    modeBehind mode (before ++ [token]) = token.nextMode := by
  simp [modeBehind]

/-- A token has the kind of its lexeme. -/
theorem Lexeme.token_kind? (lexeme : Lexeme) (line : Nat) (char : Char) (rest : List Char) :
    (lexeme.token line char rest).kind? = lexeme.kind? := by
  unfold Lexeme.token
  split <;> simp_all [Token.kind?]

/-- The kinds of a token are told by the one it has. -/
theorem Token.isKind_eq (token : Token) (kind : Kind) :
    token.isKind kind = (token.kind? == some kind) := by
  cases token <;> simp [Token.isKind, Token.kind?]

/-- The mode after a token is the mode after its lexeme. -/
theorem Lexeme.nextMode_token (lexeme : Lexeme) (line : Nat) (char : Char) (rest : List Char) :
    (lexeme.token line char rest).nextMode = lexeme.nextMode := by
  simp only [Token.nextMode, Token.isKind_eq, Lexeme.token_kind?, Lexeme.nextMode]

/-- The lengths of the rules that give tokens of a kind. -/
def Kind.lengths : Kind → List (List Char → Nat)
  -- Tags that enter code and plain text come from no rule of code.
  | .openTag | .echoTag | .inlineHtml => []
  | .closeTag => [closeTagLength]
  | .whitespace => [whitespaceLength]
  | .docComment => [docCommentLength]
  | .comment => [blockCommentLength, lineCommentLength]
  | .attributeOpen => [attributeLength]
  | .variableName => [variableLength]
  | .identifier | .word _ => [wordLength]
  | .decimal => [decimalLength]
  | .integer => [integerLength]
  | .stringLiteral => [stringLength]
  | .cast => [castLength]
  | .doubleColon | .objectArrow | .doubleArrow | .ellipsis | .operator => [operatorLength]
  | .nameSeparator => [separatorLength]

/-- The kind of a token tells which rules can have cut it off. -/
theorem length_mem_lengths {rule : LexicalRule} (listed : rule ∈ lexicalRules) (text : String) :
    rule.length ∈ (rule.kind text).lengths := by
  -- Words and operators have kinds of their own, all with one length.
  have words : wordLength ∈ (kindOfWord text).lengths := by
    unfold kindOfWord
    split <;> simp [Kind.lengths]
  have operators : operatorLength ∈ (kindOfOperator text).lengths := by
    unfold kindOfOperator
    split_ifs <;> simp [Kind.lengths]
  -- Rule by rule, in the order in which they are tried.
  simp only [lexicalRules, List.mem_cons, List.not_mem_nil, or_false] at listed
  rcases listed with rfl | rfl | rfl | rfl | rfl | rfl | rfl | rfl | rfl | rfl | rfl | rfl | rfl |
    rfl
  all_goals first | exact words | exact operators | simp [Kind.lengths]

/-- Some text at a place of a list of tokens, whose next lexeme is a token of the list. -/
structure Round (mode : Mode) (chars : List Char) (token : Token) (after : List Token) : Prop where
  /-- The text is that of the token and of the tokens after it. -/
  text : chars = token.text.toList ++ (textOf after).toList
  /-- The token has the kind of the lexeme. -/
  kind : token.kind? = (nextLexeme mode chars).kind?
  /-- The token has the text that the lexeme takes. -/
  taken : token.text.toList = chars.take (nextLexeme mode chars).length
  /-- There is something to take. -/
  nonempty : token.text.toList ≠ []

/-- Every token is the next lexeme of the text at its place. -/
theorem tokenizeFrom_round {mode : Mode} {line : Nat} {chars : List Char}
    {before after : List Token} {token : Token}
    (cut : tokenizeFrom mode line chars = before ++ token :: after) :
    Round (modeBehind mode before) (textOf (token :: after)).toList token after := by
  -- The induction is on the tokens before it, each of which is one round of the loop.
  induction before generalizing mode line chars with
  | nil =>
    cases chars with
    | nil => simp at cut
    | cons char rest =>
      have joined := textOf_tokenizeFrom mode line (char :: rest)
      have nonempty : token.text ≠ "" :=
        tokenizeFrom_text_ne_empty mode line (char :: rest) token (by simp [cut])
      rw [cut, List.nil_append] at joined
      rw [tokenizeFrom_cons] at cut
      obtain ⟨first, -⟩ := List.cons.inj cut
      rw [joined]
      constructor
      · rw [← joined, textOf_cons, String.toList_append]
      · rw [← first, Lexeme.token_kind?]
        rfl
      · rw [← first]
        exact nextLexeme_token_text mode line char rest
      · simpa using nonempty
  | cons earlier before ih =>
    cases chars with
    | nil => simp at cut
    | cons char rest =>
      rw [tokenizeFrom_cons] at cut
      obtain ⟨first, later⟩ := List.cons.inj cut
      have round := ih later
      rwa [← Lexeme.nextMode_token, first] at round

/-- Every token of a source is the next lexeme of the text at its place. -/
theorem tokenize_round {source : String} {before after : List Token} {token : Token}
    (cut : tokenize source = before ++ token :: after) :
    Round (modeBehind .html before) (textOf (token :: after)).toList token after :=
  tokenizeFrom_round cut

/-- The token after another one is read in the mode that the other one leaves behind. -/
theorem tokenize_next_round {source : String} {before later : List Token} {token next : Token}
    (cut : tokenize source = before ++ token :: next :: later) :
    Round token.nextMode (textOf (next :: later)).toList next later := by
  -- The next token is cut off what the first one leaves, in the mode it leaves behind.
  have moved : tokenize source = (before ++ [token]) ++ next :: later := by simp [cut]
  have round := tokenize_round moved
  rwa [modeBehind_concat] at round

namespace Round

variable {mode : Mode} {chars : List Char} {token : Token} {after : List Token}

/-- What the lexeme takes is as long as the token. -/
theorem length (round : Round mode chars token after) :
    token.text.toList.length = (nextLexeme mode chars).length := by
  -- A round starts with some text left, and its lexeme is within it.
  obtain ⟨char, rest, rfl⟩ : ∃ char rest, chars = char :: rest := by
    cases chars with
    | nil => exact absurd (by simpa using round.taken) round.nonempty
    | cons char rest => exact ⟨char, rest, rfl⟩
  rw [round.taken, List.length_take]
  exact Nat.min_eq_left (nextLexeme_length_le mode char rest)

/-- Behind the token stands the text of the tokens after it. -/
theorem left (round : Round mode chars token after) :
    chars.drop token.text.toList.length = (textOf after).toList := by
  nth_rewrite 1 [round.text]
  exact List.drop_left

/-- The text starts with the first character of the token. -/
theorem head?_eq (round : Round mode chars token after) :
    chars.head? = token.text.toList.head? := by
  rw [round.text, List.head?_append_of_ne_nil _ round.nonempty]

/-- Outside the tags a token is plain text or a tag that enters code. -/
theorem html_kind (round : Round .html chars token after) :
    token.isKind .inlineHtml = true ∨ token.isKind .openTag = true ∨
      token.isKind .echoTag = true := by
  -- Outside the code a lexeme is a tag that opens, or the text before one.
  have kind := round.kind
  simp only [nextLexeme, htmlLexeme] at kind
  simp only [Token.isKind_eq, kind]
  split
  · simp
  · split <;> simp

/-- A token of code comes from a rule of its kind, which takes all of it. -/
theorem exists_length (round : Round .code chars token after) {kind : Kind}
    (typed : token.isKind kind = true) :
    ∃ length ∈ kind.lengths, 0 < length chars ∧ token.text.toList.length = length chars := by
  -- The rule that read the lexeme gave the kind, and a symbol has none.
  have own : (codeLexeme chars).kind? = some kind := by
    have same := round.kind
    rw [nextLexeme] at same
    rw [← same]
    simpa [Token.isKind_eq] using typed
  have taken := round.length
  rw [nextLexeme] at taken
  rcases codeLexeme_cases chars with ⟨rule, listed, positive, cut⟩ | symbol
  · rw [cut] at own taken
    obtain rfl := Option.some.inj own
    exact ⟨rule.length, length_mem_lengths listed _, positive, taken⟩
  · simp [symbol] at own

/-- A token of a kind that some rule of code gives stands in code. -/
theorem mode_eq_code_of_kind (round : Round mode chars token after) {kind : Kind}
    (typed : token.isKind kind = true) (ruled : kind.lengths ≠ []) : mode = .code := by
  -- None of the kinds read outside the code has a rule.
  cases mode with
  | code => rfl
  | html =>
    obtain ⟨text, line, rfl⟩ := Token.isKind_iff.mp typed
    have outside := round.html_kind
    cases kind <;> simp_all [Token.isKind, Kind.lengths]

end Round

end PhpOutline
