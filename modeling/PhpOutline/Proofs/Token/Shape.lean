import Mathlib
import PhpOutline.Proofs.Token.Round
import PhpOutline.Proofs.Token.Truncation

/-!
The shape of every list of tokens that the tokenizer makes.

Tags and plain text alternate with code, and inside code every greedy rule stops where it must.
What the searches for declarations take for granted about their tokens holds of every source.
-/

namespace PhpOutline

/-- Whether a token enters code. -/
def Token.entersCode (token : Token) : Bool :=
  -- The tag that echoes is one of the two.
  token.isKind .openTag || token.isKind .echoTag

/-- Whether a token is a variable, an identifier or a reserved word. -/
def Token.endsInWord (token : Token) : Bool :=
  -- All three take as many word characters as there are.
  token.isKind .variableName || token.isKind .identifier || token.kind?.any Kind.isReserved

/-- A token of code that is the word at the front of its own text and of what follows it. -/
structure Token.IsReadAsWord (token : Token) (after : List Token) : Prop where
  /-- Plain text outside the tags is not read at all. -/
  inCode : token.isKind .inlineHtml = false
  /-- A word stands at the front. -/
  opens : 0 < wordLength (textOf (token :: after)).toList
  /-- The token is that word. -/
  whole : token.text.toList =
    (textOf (token :: after)).toList.take (wordLength (textOf (token :: after)).toList)

/-- A token that stands where it may, between the tokens before it and those after it. -/
structure WellPlaced (before : List Token) (token : Token) (after : List Token) : Prop where
  /-- Plain text comes first or right after a tag that leaves code. -/
  html_behind : token.isKind .inlineHtml = true →
    before.getLast?.all (Token.isKind .closeTag) = true
  /-- No tag that enters code stands in plain text, be it read alone or with what follows it. -/
  html_plain : token.isKind .inlineHtml = true → ∀ offset < token.text.toList.length,
    openTagLength (token.text.toList.drop offset) = 0 ∧
      openTagLength ((textOf (token :: after)).toList.drop offset) = 0
  /-- Plain text comes last or right before a tag that enters code. -/
  html_ahead : token.isKind .inlineHtml = true → after.head?.all Token.entersCode = true
  /-- A tag that enters code comes first, after plain text or after a tag that leaves code. -/
  tag_behind : token.entersCode = true → before.getLast?.all (fun last =>
    last.isKind .inlineHtml || last.isKind .closeTag) = true
  /-- Every other token stands in code that was entered and not left since. -/
  code_behind : token.isKind .inlineHtml = false → token.entersCode = false →
    ∃ earlier tag between, before = earlier ++ tag :: between ∧ tag.entersCode = true ∧
      ∀ inner ∈ between, inner.isKind .closeTag = false
  /-- A symbol is neither white space nor part of a word, nor does it open a comment or a name. -/
  symbol : ∀ char, token = .symbol char →
    isBlank char = false ∧ isWordChar char = false ∧ char ≠ '#' ∧ char ≠ '\\'
  /-- White space is not followed by white space. -/
  whitespace_ahead : token.isKind .whitespace = true →
    after.head?.all (fun next => !next.isKind .whitespace) = true
  /-- A word is not followed by a word character. -/
  word_ahead : token.endsInWord = true → after.head?.all (fun next =>
    next.text.toList.head?.all (!isWordChar ·)) = true
  /-- The reserved words are the words with a reserved spelling. -/
  reserved : ∀ keyword, token.isWord keyword = true ↔
    token.IsReadAsWord after ∧ Keyword.ofText? token.text = some keyword
  /-- An identifier is no reserved word, whatever the case of its letters. -/
  identifier : token.isKind .identifier = true →
    ∀ spelling, lowerAscii spelling = lowerAscii token.text → Keyword.ofText? spelling = none

/-- White space is no part of a word. -/
theorem isWordChar_of_isBlank {char : Char} (blank : isBlank char = true) :
    isWordChar char = false := by
  -- The ranges of white space are few and short, so each of their characters is looked up.
  have table : ∀ range ∈ blankRanges, ∀ code ∈ List.range' range.1 (range.2 + 1 - range.1),
      isWordChar (Char.ofNat code) = false := by decide +kernel
  simp only [isBlank, inRanges, List.any_eq_true, Bool.and_eq_true, decide_eq_true_eq] at blank
  obtain ⟨range, listed, low, high⟩ := blank
  have code : char.toNat ∈ List.range' range.1 (range.2 + 1 - range.1) := by
    rw [List.mem_range'_1]
    omega
  have looked := table range listed char.toNat code
  rwa [Char.ofNat_toNat] at looked

/-- Where a word stands, it is the next lexeme. -/
theorem codeLexeme_word {chars : List Char} (opens : 0 < wordLength chars) :
    codeLexeme chars =
      ⟨some (kindOfWord (String.ofList (chars.take (wordLength chars)))), wordLength chars⟩ := by
  cases chars with
  | nil => simp [wordLength] at opens
  | cons char rest =>
    have first : opensWord char = true := by
      by_contra closed
      simp [wordLength, closed] at opens
    have inWord : isWordChar char = true := by
      simp only [opensWord, Bool.and_eq_true] at first
      exact first.1
    have unblank : isBlank char = false := by
      by_contra blank
      rw [isWordChar_of_isBlank (by simpa using blank)] at inWord
      simp at inWord
    -- None of the earlier rules can start with the first character of a word.
    have differs : ∀ other, isWordChar other = false → char ≠ other := by
      intro other apart same
      rw [same, apart] at inWord
      simp at inWord
    have question := differs '?' (by decide)
    have slash := differs '/' (by decide)
    have hash := differs '#' (by decide)
    have dollar := differs '$' (by decide)
    simp [codeLexeme, lexicalRules, LexicalRule.lexeme?, closeTagLength, whitespaceLength,
      runLength, unblank, docCommentLength, blockCommentLength, attributeLength, lineCommentLength,
      variableLength, question, slash, hash, dollar, opens]

/-- A token of a reserved kind is a reserved word of some class. -/
theorem Token.exists_isWord_of_reserved {token : Token}
    (reserved : token.kind?.any Kind.isReserved = true) :
    ∃ keyword, token.isWord keyword = true := by
  -- Only words are reserved.
  cases token with
  | symbol char => simp [Token.kind?] at reserved
  | typed kind text line =>
    cases kind with
    | word keyword => exact ⟨keyword, by simp [Token.isWord, Token.isKind]⟩
    | _ => simp [Token.kind?, Kind.isReserved] at reserved

/-- A word whose kind is that of a class of reserved words is spelled like one of them. -/
theorem ofText?_of_kindOfWord {text : String} {keyword : Keyword}
    (kind : kindOfWord text = .word keyword) : Keyword.ofText? text = some keyword := by
  -- A word that no keyword is spelled by is an identifier.
  unfold kindOfWord at kind
  split at kind
  · rename_i own spelled
    rw [spelled, Kind.word.inj kind]
  · simp at kind

/-- A run ends before a character that fails the test, or with the text. -/
theorem head?_drop_runLength (test : Char → Bool) (chars : List Char) :
    (chars.drop (runLength test chars)).head?.all (!test ·) = true := by
  -- Over the characters: the run stops at the first one that fails the test.
  induction chars with
  | nil => rfl
  | cons char rest ih =>
    rw [runLength]
    split
    · exact ih
    · rename_i failed
      simpa using failed

/-- A word ends before a character that is no part of a word, or with the text. -/
theorem head?_drop_wordLength {chars : List Char} (opens : 0 < wordLength chars) :
    (chars.drop (wordLength chars)).head?.all (!isWordChar ·) = true := by
  -- Behind the first character a word is a run.
  cases chars with
  | nil => rfl
  | cons char rest =>
    rw [wordLength] at opens ⊢
    split
    · rw [Nat.add_comm]
      exact head?_drop_runLength isWordChar rest
    · rename_i closed
      simp [closed] at opens

/-- A variable ends before a character that is no part of a word, or with the text. -/
theorem head?_drop_variableLength {chars : List Char} (opens : 0 < variableLength chars) :
    (chars.drop (variableLength chars)).head?.all (!isWordChar ·) = true := by
  -- What follows the sign is a word, and there is one.
  unfold variableLength at opens ⊢
  split at opens
  · rename_i rest
    by_cases word : 0 < wordLength rest
    · rw [if_pos word, Nat.add_comm]
      exact head?_drop_wordLength word
    · simp [word] at opens
  · simp at opens

/-- Up to the end of plain text no tag enters code. -/
theorem openTagLength_drop_of_lt {chars : List Char} {offset : Nat}
    (inside : offset < htmlLength chars) : openTagLength (chars.drop offset) = 0 := by
  -- Over the characters: the text before a tag ends as soon as a tag opens.
  induction chars generalizing offset with
  | nil => simp [htmlLength] at inside
  | cons char rest ih =>
    rw [htmlLength] at inside
    split at inside
    · omega
    · rename_i plain
      cases offset with
      | zero => simpa using plain
      | succ offset => exact ih (by omega)

/-- A tag that enters code does not open with a word. -/
theorem wordLength_of_openTagLength {chars : List Char} (tag : 0 < openTagLength chars) :
    wordLength chars = 0 := by
  -- A tag starts with a character that opens no word.
  unfold openTagLength at tag
  split at tag
  · simp [wordLength, show opensWord '<' = false by decide]
  · simp [wordLength, show opensWord '<' = false by decide]
  · simp at tag

/-- Every lexeme that a rule cuts off has a kind. -/
theorem LexicalRule.kind?_lexeme? {rule : LexicalRule} {chars : List Char} {lexeme : Lexeme}
    (cut : rule.lexeme? chars = some lexeme) : lexeme.kind?.isSome = true := by
  -- A rule that reads something names its kind.
  simp only [LexicalRule.lexeme?] at cut
  split at cut
  · rw [← Option.some.inj cut]
    rfl
  · simp at cut

/-- Where a lexeme of code has no kind, no rule takes anything. -/
theorem length_eq_zero_of_symbol {chars : List Char} (bare : (codeLexeme chars).kind? = none)
    {rule : LexicalRule} (listed : rule ∈ lexicalRules) : rule.length chars = 0 := by
  -- Had any rule read something, the lexeme would have a kind.
  cases applied : lexicalRules.findSome? (LexicalRule.lexeme? chars) with
  | none =>
    have refused := List.findSome?_eq_none_iff.mp applied rule listed
    simpa [LexicalRule.lexeme?] using refused
  | some lexeme =>
    obtain ⟨other, -, cut⟩ := List.exists_of_findSome?_eq_some applied
    have typed := LexicalRule.kind?_lexeme? cut
    rw [codeLexeme, applied, Option.getD_some] at bare
    simp [bare] at typed

/-- A symbol that no rule takes is no white space, no part of a word, and opens nothing. -/
theorem symbol_plain {char : Char} {rest : List Char}
    (bare : (codeLexeme (char :: rest)).kind? = none) :
    isBlank char = false ∧ isWordChar char = false ∧ char ≠ '#' ∧ char ≠ '\\' := by
  have refused : ∀ rule ∈ lexicalRules, rule.length (char :: rest) = 0 :=
    fun rule listed => length_eq_zero_of_symbol bare listed
  simp only [lexicalRules, List.forall_mem_cons] at refused
  obtain ⟨-, whitespace, -, -, -, line, -, word, -, integer, -, -, -, separator, -⟩ := refused
  refine ⟨?_, ?_, ?_, ?_⟩
  · by_contra blank
    simp [whitespaceLength, runLength, blank] at whitespace
  · -- A word character opens a word unless it is a digit, which opens a number.
    by_contra inWord
    have digit : isDigit char = true := by
      by_contra letter
      simp [wordLength, opensWord, inWord, letter] at word
    unfold integerLength at integer
    split at integer
    · rename_i base more
      split_ifs at integer
      all_goals first | omega | simp [digitsLength, digit] at integer
    · simp [digitsLength, digit] at integer
  · rintro rfl
    simp [lineCommentLength] at line
  · rintro rfl
    simp [separatorLength] at separator

namespace Round

variable {mode : Mode} {chars : List Char} {token : Token} {after : List Token}

/-- Plain text and the tags that enter code are read outside of it. -/
theorem mode_eq_html (round : Round mode chars token after)
    (outside : token.isKind .inlineHtml = true ∨ token.entersCode = true) : mode = .html := by
  cases mode with
  | html => rfl
  | code =>
    -- No rule of code gives any of the three kinds.
    simp only [Token.entersCode, Bool.or_eq_true] at outside
    rcases outside with plain | tag | echo
    · obtain ⟨_, listed, -⟩ := round.exists_length plain
      simp [Kind.lengths] at listed
    · obtain ⟨_, listed, -⟩ := round.exists_length tag
      simp [Kind.lengths] at listed
    · obtain ⟨_, listed, -⟩ := round.exists_length echo
      simp [Kind.lengths] at listed

/-- Everything else is read in code. -/
theorem mode_eq_code (round : Round mode chars token after)
    (inside : token.isKind .inlineHtml = false) (within : token.entersCode = false) :
    mode = .code := by
  -- Outside the code only the text and the two opening tags are read.
  cases mode with
  | code => rfl
  | html =>
    simp only [Token.entersCode, Bool.or_eq_false_iff] at within
    have kinds := round.html_kind
    simp [inside, within] at kinds

/-- A token of a kind that one rule gives stands in code, and the rule takes all of it. -/
theorem length_of_kind (round : Round mode chars token after) {kind : Kind}
    {length : List Char → Nat} (typed : token.isKind kind = true)
    (sole : kind.lengths = [length]) :
    mode = .code ∧ 0 < length chars ∧ token.text.toList.length = length chars := by
  -- The kind is that of a rule, and only one rule gives it.
  have coded : mode = .code := round.mode_eq_code_of_kind typed (by simp [sole])
  rw [coded] at round
  obtain ⟨other, listed, positive, taken⟩ := round.exists_length typed
  rw [sole, List.mem_singleton] at listed
  rw [listed] at positive taken
  exact ⟨coded, positive, taken⟩

/-- Plain text is all that stands before the next tag that enters code. -/
theorem html_length (round : Round .html chars token after)
    (plain : token.isKind .inlineHtml = true) :
    token.text.toList.length = htmlLength chars := by
  -- A tag would be of another kind.
  have kind := round.kind
  have length := round.length
  rw [Token.isKind_eq, kind] at plain
  simp only [nextLexeme, htmlLexeme] at plain length
  split at plain
  · rename_i some
    rwa [if_pos some] at length
  · split at plain <;> simp at plain

/-- Where a tag enters code, a tag is the next token. -/
theorem entersCode (round : Round .html chars token after) (tag : htmlLength chars = 0) :
    token.entersCode = true := by
  -- With no text in front of it the lexeme is the tag.
  have kind := round.kind
  simp only [nextLexeme, htmlLexeme, tag, Nat.lt_irrefl, if_false] at kind
  rw [Token.entersCode, Token.isKind_eq, Token.isKind_eq, kind]
  split <;> rfl

/-- A tag that enters code stands at the front of the text it is read from. -/
theorem openTagLength_pos (round : Round .html chars token after)
    (tag : token.entersCode = true) : 0 < openTagLength chars := by
  -- With text in front of the tag the lexeme would be that text.
  have kind := round.kind
  have full : chars ≠ [] := by
    rintro rfl
    exact round.nonempty (by simpa using round.taken)
  obtain ⟨char, rest, rfl⟩ := List.exists_cons_of_ne_nil full
  apply openTagLength_pos_of_htmlLength
  by_contra plain
  simp only [nextLexeme, htmlLexeme, Nat.pos_of_ne_zero plain, if_true] at kind
  simp [Token.entersCode, Token.isKind_eq, kind] at tag

/-- Where a word stands in code, it is the token. -/
theorem word (round : Round .code chars token after) (opens : 0 < wordLength chars) :
    token.text.toList = chars.take (wordLength chars) ∧
      token.kind? = some (kindOfWord token.text) := by
  -- In code a word is read by one rule, whatever it spells.
  have kind := round.kind
  have taken := round.taken
  rw [nextLexeme, codeLexeme_word opens] at kind taken
  refine ⟨taken, ?_⟩
  rw [kind, ← taken, String.ofList_toList]

end Round

/-- Text is read outside of code at the start, after plain text and after a tag that leaves code. -/
theorem getLast?_of_modeBehind {before : List Token} (outside : modeBehind .html before = .html) :
    before.getLast?.all (fun last => last.isKind .inlineHtml || last.isKind .closeTag) = true := by
  -- The last token decides the mode, and at the start there is none.
  rcases List.eq_nil_or_concat before with rfl | ⟨earlier, last, rfl⟩
  · rfl
  · rw [List.concat_eq_append, modeBehind_concat, Token.nextMode] at outside
    split at outside
    · rename_i leaves
      simpa [Bool.or_comm] using leaves
    · simp at outside

section

variable {source : String} {before after : List Token} {token : Token}

/-- Plain text comes last or right before a tag that enters code. -/
theorem entersCode_behind_html (cut : tokenize source = before ++ token :: after)
    (plain : token.isKind .inlineHtml = true) : after.head?.all Token.entersCode = true := by
  cases after with
  | nil => rfl
  | cons next later =>
    have round := tokenize_round cut
    have onward := tokenize_next_round cut
    rw [round.mode_eq_html (.inl plain)] at round
    rw [Token.nextMode, plain, Bool.or_true, if_pos rfl] at onward
    -- Plain text goes up to the next tag, so that none is left behind it.
    apply onward.entersCode
    rw [← round.left, round.html_length plain, htmlLength_drop]

/-- Plain text comes first or right after a tag that leaves code. -/
theorem closeTag_before_html (cut : tokenize source = before ++ token :: after)
    (plain : token.isKind .inlineHtml = true) :
    before.getLast?.all (Token.isKind .closeTag) = true := by
  have behind := getLast?_of_modeBehind ((tokenize_round cut).mode_eq_html (.inl plain))
  rcases List.eq_nil_or_concat before with rfl | ⟨earlier, last, rfl⟩
  · rfl
  · simp only [List.concat_eq_append, List.getLast?_concat, Option.all_some, Bool.or_eq_true]
      at behind ⊢
    rcases behind with same | tag
    · -- After plain text would come a tag that enters code.
      have entered : token.entersCode = true := by
        have ahead : tokenize source = earlier ++ last :: token :: after := by simp [cut]
        simpa using entersCode_behind_html ahead same
      obtain ⟨text, line, rfl⟩ := Token.isKind_iff.mp plain
      simp [Token.entersCode, Token.isKind] at entered
    · exact tag

/-- Code was entered by a tag and not left since. -/
theorem exists_tag_of_code (cut : tokenize source = before ++ token :: after)
    (coded : modeBehind .html before = .code) :
    ∃ earlier tag between, before = earlier ++ tag :: between ∧ tag.entersCode = true ∧
      ∀ inner ∈ between, inner.isKind .closeTag = false := by
  -- The induction is on the tokens before it: the last of them is the tag or stands in code too.
  induction before using List.reverseRecOn generalizing token after with
  | nil => simp [modeBehind] at coded
  | append_singleton earlier last ih =>
    rw [modeBehind_concat, Token.nextMode] at coded
    have stays : last.isKind .closeTag = false ∧ last.isKind .inlineHtml = false := by
      split at coded
      · simp at coded
      · rename_i stays
        simpa using stays
    cases entered : last.entersCode with
    | true => exact ⟨earlier, last, [], rfl, entered, by simp⟩
    | false =>
      have shorter : tokenize source = earlier ++ last :: token :: after := by simp [cut]
      have round := tokenize_round shorter
      obtain ⟨front, tag, between, rfl, enters, kept⟩ :=
        ih shorter (round.mode_eq_code stays.2 entered)
      refine ⟨front, tag, between ++ [last], by simp, enters, fun inner listed => ?_⟩
      rcases List.mem_append.mp listed with within | final
      · exact kept inner within
      · rw [List.mem_singleton.mp final]
        exact stays.1

/-- White space is not followed by white space. -/
theorem whitespace_behind_whitespace (cut : tokenize source = before ++ token :: after)
    (blank : token.isKind .whitespace = true) :
    after.head?.all (fun next => !next.isKind .whitespace) = true := by
  cases after with
  | nil => rfl
  | cons next later =>
    obtain ⟨-, -, taken⟩ := (tokenize_round cut).length_of_kind blank rfl
    have ends := head?_drop_runLength isBlank (textOf (token :: next :: later)).toList
    rw [← whitespaceLength, ← taken, (tokenize_round cut).left] at ends
    -- The next token would start with the character that ended the run.
    by_contra again
    have again : next.isKind .whitespace = true := by simpa using again
    obtain ⟨-, opens, -⟩ := (tokenize_next_round cut).length_of_kind again rfl
    cases chars : (textOf (next :: later)).toList with
    | nil =>
      rw [chars] at opens
      simp [whitespaceLength, runLength] at opens
    | cons char rest =>
      rw [chars] at ends opens
      simp only [List.head?_cons, Option.all_some, Bool.not_eq_true'] at ends
      simp [whitespaceLength, runLength, ends] at opens

/-- A variable, an identifier or a reserved word is not followed by a word character. -/
theorem isWordChar_behind_word (cut : tokenize source = before ++ token :: after)
    (ends : token.endsInWord = true) :
    after.head?.all (fun next => next.text.toList.head?.all (!isWordChar ·)) = true := by
  have round := tokenize_round cut
  -- Two rules give such tokens, and both stop at such a character only.
  have stopped : (textOf after).toList.head?.all (!isWordChar ·) = true := by
    rw [← round.left]
    simp only [Token.endsInWord, Bool.or_eq_true, or_assoc] at ends
    rcases ends with dollar | identifier | reserved
    · obtain ⟨-, opens, taken⟩ := round.length_of_kind dollar rfl
      rw [taken]
      exact head?_drop_variableLength opens
    · obtain ⟨-, opens, taken⟩ := round.length_of_kind identifier rfl
      rw [taken]
      exact head?_drop_wordLength opens
    · obtain ⟨keyword, keyed⟩ := Token.exists_isWord_of_reserved reserved
      obtain ⟨-, opens, taken⟩ := round.length_of_kind keyed rfl
      rw [taken]
      exact head?_drop_wordLength opens
  cases after with
  | nil => rfl
  | cons next later => rwa [(tokenize_next_round cut).head?_eq] at stopped

/-- The reserved words are the words with a reserved spelling. -/
theorem isWord_iff_readAsWord (cut : tokenize source = before ++ token :: after)
    (keyword : Keyword) :
    token.isWord keyword = true ↔
      token.IsReadAsWord after ∧ Keyword.ofText? token.text = some keyword := by
  have round := tokenize_round cut
  constructor
  · -- A keyword comes from the rule for words, which read it whole.
    intro keyed
    obtain ⟨coded, opens, -⟩ := round.length_of_kind keyed rfl
    rw [coded] at round
    obtain ⟨whole, kind⟩ := round.word opens
    obtain ⟨text, line, rfl⟩ := Token.isWord_iff.mp keyed
    exact ⟨⟨rfl, opens, whole⟩, ofText?_of_kindOfWord (Option.some.inj kind).symm⟩
  · -- A word in code is read by that rule, and no tag reads as a word.
    rintro ⟨⟨inCode, opens, -⟩, spelled⟩
    have within : token.entersCode = false := by
      by_contra tag
      have tag : token.entersCode = true := by simpa using tag
      rw [round.mode_eq_html (.inr tag)] at round
      rw [wordLength_of_openTagLength (round.openTagLength_pos tag)] at opens
      omega
    rw [round.mode_eq_code inCode within] at round
    obtain ⟨-, kind⟩ := round.word opens
    rw [Token.isWord, Token.isKind_eq, kind, kindOfWord, spelled, beq_self_eq_true]

/-- An identifier is no reserved word, whatever the case of its letters. -/
theorem ofText?_of_identifier (cut : tokenize source = before ++ token :: after)
    (plain : token.isKind .identifier = true) {spelling : String}
    (same : lowerAscii spelling = lowerAscii token.text) : Keyword.ofText? spelling = none := by
  -- The keyword was looked up by the folded spelling, and there was none.
  have round := tokenize_round cut
  obtain ⟨coded, opens, -⟩ := round.length_of_kind plain rfl
  rw [coded] at round
  obtain ⟨-, kind⟩ := round.word opens
  rw [Token.isKind_eq, kind, beq_iff_eq, Option.some.injEq, kindOfWord] at plain
  rw [Keyword.ofText?, same, ← Keyword.ofText?]
  split at plain
  · simp at plain
  · assumption

end

/--
Every token of every source stands where it may.

Plain text, tags and code alternate as they should, and no greedy rule stops early.
The words are the reserved ones and the identifiers, told apart by their spelling alone.
-/
theorem tokenize_wellPlaced {source : String} {before after : List Token} {token : Token}
    (cut : tokenize source = before ++ token :: after) : WellPlaced before token after where
  html_behind := closeTag_before_html cut
  html_plain plain offset inside := by
    have round := tokenize_round cut
    rw [round.mode_eq_html (.inl plain)] at round
    have none : openTagLength ((textOf (token :: after)).toList.drop offset) = 0 :=
      openTagLength_drop_of_lt (by rwa [← round.html_length plain])
    refine ⟨?_, none⟩
    -- A tag in the text alone would also be one with more text behind it.
    have stable := openTagLength_cutStable (token.text.toList.drop offset) (textOf after).toList
    rw [← List.drop_append_of_le_length (Nat.le_of_lt inside), ← round.text, none] at stable
    exact stable (Nat.zero_le _)
  html_ahead := entersCode_behind_html cut
  tag_behind enters := getLast?_of_modeBehind ((tokenize_round cut).mode_eq_html (.inr enters))
  code_behind inside within :=
    exists_tag_of_code cut ((tokenize_round cut).mode_eq_code inside within)
  symbol char bare := by
    subst bare
    have round := tokenize_round cut
    have text : (textOf (.symbol char :: after)).toList = char :: (textOf after).toList := by
      simp [Token.text]
    rw [round.mode_eq_code rfl rfl, text] at round
    exact symbol_plain round.kind.symm
  whitespace_ahead := whitespace_behind_whitespace cut
  word_ahead := isWordChar_behind_word cut
  reserved := isWord_iff_readAsWord cut
  identifier plain spelling same := ofText?_of_identifier cut plain same

/-- A reserved word in capitals stands in the code behind plain text, in front of an identifier. -/
theorem tokenize_wellPlaced_capitals :
    let before : List Token := [.typed .inlineHtml "<p>" 1, .typed .openTag "<?php " 1]
    let after : List Token := [.typed .whitespace "\n" 1, .typed .identifier "é1" 2, .symbol '?']
    tokenize "<p><?php CLASS\né1?" = before ++ .typed (.word .classWord) "CLASS" 1 :: after ∧
      WellPlaced before (.typed (.word .classWord) "CLASS" 1) after := by
  -- The keyword is cut out of the tokens that the text gives.
  intro before after
  have cut : tokenize "<p><?php CLASS\né1?" =
      before ++ .typed (.word .classWord) "CLASS" 1 :: after := by
    decide +kernel
  exact ⟨cut, tokenize_wellPlaced cut⟩

end PhpOutline
