import Mathlib
import PhpOutline.Proofs.Token.Basic
import PhpOutline.Proofs.Token.Lexeme

/-!
Tokenizing keeps every character and counts every line.

Each round of the loop cuts one lexeme off the front of what is left.
What a round takes is the text of the token it emits, and the rest follows by induction.
-/

namespace PhpOutline

/-- The token that a lexeme cuts off the front of a text. -/
def Lexeme.token (lexeme : Lexeme) (line : Nat) (char : Char) (rest : List Char) : Token :=
  -- A lexeme without a kind is the bare first character.
  match lexeme.kind? with
  | some kind => .typed kind (String.ofList ((char :: rest).take lexeme.length)) line
  | none => .symbol char

/-- Nothing is cut off an empty text. -/
@[simp] theorem tokenizeFrom_nil (mode : Mode) (line : Nat) : tokenizeFrom mode line [] = [] := by
  rw [tokenizeFrom]

/-- One round emits the token of the next lexeme and goes on after it. -/
theorem tokenizeFrom_cons (mode : Mode) (line : Nat) (char : Char) (rest : List Char) :
    tokenizeFrom mode line (char :: rest) =
      (nextLexeme mode (char :: rest)).token line char rest ::
        tokenizeFrom (nextLexeme mode (char :: rest)).nextMode
          (line + ((char :: rest).take (nextLexeme mode (char :: rest)).length).count '\n')
          ((char :: rest).drop (nextLexeme mode (char :: rest)).length) := by
  rw [tokenizeFrom]
  rfl

/-- Every lexeme outside the tags has a kind. -/
theorem htmlLexeme_kind (chars : List Char) : (htmlLexeme chars).kind?.isSome = true := by
  simp only [htmlLexeme]
  split <;> simp

/-- No lexeme takes more characters than are left. -/
theorem nextLexeme_length_le (mode : Mode) (char : Char) (rest : List Char) :
    (nextLexeme mode (char :: rest)).length ≤ (char :: rest).length := by
  cases mode with
  | html =>
    -- Plain text and tags both have a bound of their own.
    simp only [nextLexeme, htmlLexeme]
    split
    · exact htmlLength_le (char :: rest)
    · exact openTagLength_le (char :: rest)
  | code =>
    rw [nextLexeme]
    rcases codeLexeme_cases (char :: rest) with ⟨rule, listed, _, cut⟩ | symbol
    · rw [cut]
      exact lexicalRules_length_le (char :: rest) listed
    · simp [symbol]

/-- A lexeme without a kind is a single character. -/
theorem nextLexeme_symbol {mode : Mode} {chars : List Char}
    (bare : (nextLexeme mode chars).kind? = none) : (nextLexeme mode chars).length = 1 := by
  -- A lexeme without a kind is what is left when no rule applies, one character.
  cases mode with
  | html =>
    have typed := htmlLexeme_kind chars
    rw [nextLexeme] at bare
    simp [bare] at typed
  | code =>
    rw [nextLexeme] at bare ⊢
    rcases codeLexeme_cases chars with ⟨rule, _, _, cut⟩ | symbol
    · simp [cut] at bare
    · rw [symbol]

/-- What a round takes off the text is the text of the token it emits. -/
theorem nextLexeme_token_text (mode : Mode) (line : Nat) (char : Char) (rest : List Char) :
    ((nextLexeme mode (char :: rest)).token line char rest).text.toList =
      (char :: rest).take (nextLexeme mode (char :: rest)).length := by
  cases kind : (nextLexeme mode (char :: rest)).kind? with
  | none =>
    -- A symbol stands for the one character that was taken.
    simp [Lexeme.token, kind, Token.text, nextLexeme_symbol kind]
  | some found => simp [Lexeme.token, kind, Token.text]

/-- The tokens of a text join to the text. -/
theorem textOf_tokenizeFrom (mode : Mode) (line : Nat) (chars : List Char) :
    (textOf (tokenizeFrom mode line chars)).toList = chars := by
  -- Each round moves the characters it takes into one token and leaves the others.
  fun_induction tokenizeFrom mode line chars with
  | case1 => simp
  | case2 mode line char rest lexeme text token ih =>
    have taken := nextLexeme_token_text mode line char rest
    rw [textOf_cons, String.toList_append, ih]
    calc token.text.toList ++ (char :: rest).drop lexeme.length
        = (char :: rest).take lexeme.length ++ (char :: rest).drop lexeme.length :=
          congrArg (· ++ _) taken
      _ = char :: rest := List.take_append_drop _ _

/-- No token of a text is empty. -/
theorem tokenizeFrom_text_ne_empty (mode : Mode) (line : Nat) (chars : List Char) :
    ∀ token ∈ tokenizeFrom mode line chars, token.text ≠ "" := by
  -- Every round takes at least one character.
  fun_induction tokenizeFrom mode line chars with
  | case1 => simp
  | case2 mode line char rest lexeme text token ih =>
    intro member listed
    rcases List.mem_cons.mp listed with first | later
    · have positive := nextLexeme_length_pos mode char rest
      have taken := congrArg List.length (nextLexeme_token_text mode line char rest)
      intro empty
      rw [first] at empty
      have none : token.text.toList.length = 0 := by simp [empty]
      rw [List.length_take, List.length_cons] at taken
      have := taken.symm.trans none
      omega
    · exact ih member later

/-- Tokens that all have text are no more than their characters. -/
theorem length_le_textOf_length {tokens : List Token}
    (nonempty : ∀ token ∈ tokens, token.text ≠ "") :
    tokens.length ≤ (textOf tokens).length := by
  -- Over the tokens: each adds a character or more.
  induction tokens with
  | nil => simp
  | cons token rest ih =>
    have shorter := ih fun later listed => nonempty later (by simp [listed])
    have first : token.text.length ≠ 0 := by
      simpa [String.length_eq_zero_iff] using nonempty token (by simp)
    rw [textOf_cons, String.length_append, List.length_cons]
    omega

/--
Tokenizing ends and loses nothing.

Every round takes at least one character and no more than are left, in either mode.
So there are at most as many tokens as characters, each has text, and together they are the source.
-/
theorem tokenize_lossless (source : String) :
    (∀ mode char rest, 0 < (nextLexeme mode (char :: rest)).length ∧
      (nextLexeme mode (char :: rest)).length ≤ (char :: rest).length) ∧
    (tokenize source).length ≤ source.length ∧
    (∀ token ∈ tokenize source, token.text ≠ "") ∧
    textOf (tokenize source) = source := by
  -- The rounds take the text apart from the front, and nothing of it is lost.
  have nonempty := tokenizeFrom_text_ne_empty .html 1 source.toList
  have joined : textOf (tokenize source) = source :=
    String.toList_inj.mp (textOf_tokenizeFrom .html 1 source.toList)
  have rounds := length_le_textOf_length nonempty
  refine ⟨fun mode char rest => ?_, ?_, nonempty, joined⟩
  · exact ⟨nextLexeme_length_pos mode char rest, nextLexeme_length_le mode char rest⟩
  · -- So there are no more tokens than characters.
    calc (tokenize source).length ≤ (textOf (tokenize source)).length := rounds
      _ = source.length := by rw [joined]

/-- The line feeds of an emitted token are those of the characters a round takes. -/
theorem lineFeeds_nextLexeme_token (mode : Mode) (line : Nat) (char : Char) (rest : List Char) :
    lineFeeds ((nextLexeme mode (char :: rest)).token line char rest).text =
      ((char :: rest).take (nextLexeme mode (char :: rest)).length).count '\n' := by
  rw [lineFeeds, nextLexeme_token_text]

/-- A token that has a line carries the line its round starts on. -/
theorem Lexeme.token_line {lexeme : Lexeme} {line own : Nat} {char : Char} {rest : List Char}
    (typed : (lexeme.token line char rest).line? = some own) : own = line := by
  -- Only a typed token has a line, which is the one it is read at.
  unfold Lexeme.token at typed
  split at typed
  · simpa [Token.line?] using typed.symm
  · simp [Token.line?] at typed

/-- A typed token stands as many lines below the start as there are line feeds before it. -/
theorem tokenizeFrom_line {mode : Mode} {line : Nat} {chars : List Char} {before after : List Token}
    {token : Token} {own : Nat} (cut : tokenizeFrom mode line chars = before ++ token :: after)
    (typed : token.line? = some own) : own = line + lineFeeds (textOf before) := by
  -- The induction is on the tokens before it, each of which is one round of the loop.
  induction before generalizing mode line chars with
  | nil =>
    cases chars with
    | nil => simp at cut
    | cons char rest =>
      rw [tokenizeFrom_cons] at cut
      obtain ⟨first, -⟩ := List.cons.inj cut
      rw [← first] at typed
      simpa using Lexeme.token_line typed
  | cons earlier before ih =>
    cases chars with
    | nil => simp at cut
    | cons char rest =>
      rw [tokenizeFrom_cons] at cut
      obtain ⟨first, later⟩ := List.cons.inj cut
      rw [ih later, textOf_cons, lineFeeds_append, ← first, lineFeeds_nextLexeme_token]
      omega

/-- No token stands on a line above the one the text starts on. -/
theorem le_of_mem_tokenizeFrom_lines (mode : Mode) (line : Nat) (chars : List Char) :
    ∀ own ∈ (tokenizeFrom mode line chars).filterMap Token.line?, line ≤ own := by
  -- A line is the first one and the line feeds in front of the token.
  intro own listed
  obtain ⟨token, member, typed⟩ := List.mem_filterMap.mp listed
  obtain ⟨before, after, cut⟩ := List.append_of_mem member
  rw [tokenizeFrom_line cut typed]
  omega

/-- The lines of the tokens never decrease. -/
theorem tokenizeFrom_lines_sorted (mode : Mode) (line : Nat) (chars : List Char) :
    ((tokenizeFrom mode line chars).filterMap Token.line?).Pairwise (· ≤ ·) := by
  -- A round emits its own line, and all later rounds start at that line or below it.
  fun_induction tokenizeFrom mode line chars with
  | case1 => simp
  | case2 mode line char rest lexeme text token ih =>
    rw [List.filterMap_cons]
    cases typed : token.line? with
    | none => exact ih
    | some own =>
      have start : own = line := Lexeme.token_line typed
      refine List.pairwise_cons.mpr ⟨fun later listed => ?_, ih⟩
      have below := le_of_mem_tokenizeFrom_lines _ _ _ later listed
      omega

/--
The line of a token is one more than the number of line feeds before it.

The line feeds may be counted in the tokens before it or in the source up to its offset.
-/
theorem tokenize_lines (source : String) :
    (∀ before kind text line after, tokenize source = before ++ .typed kind text line :: after →
      line = 1 + lineFeeds (textOf before) ∧
      line = 1 + (source.toList.take (textOf before).length).count '\n') ∧
    ((tokenize source).filterMap Token.line?).Pairwise (· ≤ ·) := by
  refine ⟨?_, tokenizeFrom_lines_sorted .html 1 source.toList⟩
  intro before kind text line after cut
  have counted : line = 1 + lineFeeds (textOf before) := tokenizeFrom_line cut rfl
  -- The tokens before it are the source up to its offset.
  have joined := textOf_tokenizeFrom .html 1 source.toList
  rw [← tokenize, cut, textOf_append, String.toList_append] at joined
  have upto : source.toList.take (textOf before).length = (textOf before).toList := by
    rw [← joined, ← String.length_toList, List.take_left]
  exact ⟨counted, by rw [upto]; exact counted⟩

/-- Text after a tag that swallows its line break stands on the next line. -/
theorem tokenize_lines_after_close_tag :
    tokenize "<?php\n?>\nx" =
      [.typed .openTag "<?php\n" 1, .typed .closeTag "?>\n" 2] ++ [.typed .inlineHtml "x" 3] ∧
    3 = 1 + lineFeeds (textOf [.typed .openTag "<?php\n" 1, .typed .closeTag "?>\n" 2]) := by
  -- The text stands behind the two line breaks that the tags take.
  have cut : tokenize "<?php\n?>\nx" =
      [.typed .openTag "<?php\n" 1, .typed .closeTag "?>\n" 2] ++ [.typed .inlineHtml "x" 3] := by
    cbv
  exact ⟨cut, ((tokenize_lines _).1 _ .inlineHtml "x" 3 [] cut).1⟩

end PhpOutline
