import Mathlib
import PhpOutline.Proofs.Token.CutStable
import PhpOutline.Proofs.Token.Shape

/-!
Where strings and comments end.

The rule for strings lets every backslash take the next character along, so that the quote which
ends a string is the first one with an even number of backslashes right before it.
The rules for comments stop at the first star and slash behind the opening, or with the text.
-/

namespace PhpOutline

section Offsets

variable {holds moved : Nat → Prop}

/-- What a search for the first offset with a property finds. -/
def IsFirstOffset (holds : Nat → Prop) : Option Nat → Prop
  -- Nothing is found only when the property holds nowhere.
  | some stop => IsLeast {offset | holds offset} stop
  | none => ∀ offset, ¬holds offset

/-- Behind characters at which the property fails, the search finds what it finds without them. -/
theorem IsFirstOffset.shift {found : Option Nat} (first : IsFirstOffset holds found) {count : Nat}
    (fails : ∀ offset < count, ¬moved offset)
    (alike : ∀ offset, moved (count + offset) ↔ holds offset) :
    IsFirstOffset moved (found.map (count + ·)) := by
  -- Wherever the moved property holds, the other one holds so many characters earlier.
  have back : ∀ offset, moved offset → ∃ earlier, offset = count + earlier ∧ holds earlier := by
    intro offset here
    have beyond : count ≤ offset := by
      by_contra early
      exact fails offset (Nat.lt_of_not_le early) here
    obtain ⟨earlier, rfl⟩ := Nat.exists_eq_add_of_le beyond
    exact ⟨earlier, rfl, (alike earlier).mp here⟩
  cases found with
  | none =>
    intro offset here
    obtain ⟨earlier, -, there⟩ := back offset here
    exact first earlier there
  | some stop =>
    refine ⟨(alike stop).mpr first.1, fun offset here => ?_⟩
    obtain ⟨earlier, rfl, there⟩ := back offset here
    exact Nat.add_le_add_left (first.2 there) count

/-- A search that starts behind some characters finds what it finds without them. -/
theorem IsFirstOffset.behind {found : Option Nat} (first : IsFirstOffset holds found) {count : Nat}
    (alike : ∀ offset, moved (count + offset) ↔ holds offset) :
    IsFirstOffset (fun offset => count ≤ offset ∧ moved offset) (found.map (count + ·)) := by
  -- Nothing counts before the part that is skipped, and behind it the places are moved.
  refine first.shift (fun offset early here => ?_) fun offset => ?_
  · exact absurd here.1 (Nat.not_le.mpr early)
  · rw [alike, and_iff_right (Nat.le_add_right count offset)]

/-- Two searches for the same property find the same. -/
theorem IsFirstOffset.unique {found other : Option Nat} (first : IsFirstOffset holds found)
    (again : IsFirstOffset holds other) : found = other := by
  -- A least offset is one only, and it cannot be where there is none.
  cases found with
  | none =>
    cases other with
    | none => rfl
    | some stop => exact absurd again.1 (first stop)
  | some stop =>
    cases other with
    | none => exact absurd first.1 (again stop)
    | some place => rw [IsLeast.unique first again]

end Offsets

section Strings

variable {quoteMark : Char}

/-- The number of backslashes right before an offset of a text. -/
def backslashesBefore (chars : List Char) (offset : Nat) : Nat :=
  -- They are counted backwards up to the first other character.
  runLength (· == '\\') (chars.take offset).reverse

/-- Whether the character at an offset is the quote and not taken along by a backslash. -/
def ClosesQuote (quoteMark : Char) (chars : List Char) (offset : Nat) : Prop :=
  -- Of an even number of backslashes each second one is taken along by the one before it.
  chars[offset]? = some quoteMark ∧ Even (backslashesBefore chars offset)

/-- A run goes on behind some characters exactly when all of them pass. -/
theorem runLength_append_eq (test : Char → Bool) (chars more : List Char) :
    runLength test (chars ++ more) =
      if chars.all test then chars.length + runLength test more else runLength test chars := by
  -- Over the characters: only where all of them pass does the run reach further.
  induction chars with
  | nil => simp
  | cons char rest ih =>
    by_cases passes : test char = true
    · simp only [List.cons_append, runLength, passes, if_true, ih, List.all_cons, Bool.true_and,
        List.length_cons]
      split <;> omega
    · simp [runLength, passes]

/-- Where all characters pass, the run is as long as the text. -/
theorem runLength_eq_length {test : Char → Bool} {chars : List Char} (all : chars.all test = true) :
    runLength test chars = chars.length := by
  simpa [all, runLength] using runLength_append_eq test chars []

/-- A character that is no backslash changes nothing for the quotes behind it. -/
theorem closesQuote_cons {char : Char} (plain : char ≠ '\\') (rest : List Char) (offset : Nat) :
    ClosesQuote quoteMark (char :: rest) (1 + offset) ↔ ClosesQuote quoteMark rest offset := by
  -- A character that is no backslash ends the run of those before the mark.
  have same : backslashesBefore (char :: rest) (1 + offset) = backslashesBefore rest offset := by
    rw [backslashesBefore, Nat.add_comm, List.take_succ_cons, List.reverse_cons,
      runLength_append_eq, backslashesBefore]
    split
    · rename_i all
      simp [runLength_eq_length all, runLength, plain]
    · rfl
  rw [ClosesQuote, ClosesQuote, same, Nat.add_comm, List.getElem?_cons_succ]

/-- A backslash and what it takes along change nothing for the quotes behind them. -/
theorem closesQuote_escape (escaped : Char) (rest : List Char) (offset : Nat) :
    ClosesQuote quoteMark ('\\' :: escaped :: rest) (2 + offset) ↔
      ClosesQuote quoteMark rest offset := by
  -- If the backslashes reach back to the escaped character, there are two of them more or none.
  have same : Even (backslashesBefore ('\\' :: escaped :: rest) (2 + offset)) ↔
      Even (backslashesBefore rest offset) := by
    rw [backslashesBefore, Nat.add_comm, List.take_succ_cons, List.take_succ_cons,
      List.reverse_cons, List.reverse_cons, List.append_assoc, runLength_append_eq,
      backslashesBefore]
    split
    · rename_i all
      rw [runLength_eq_length all]
      by_cases backslash : escaped = '\\'
      · simp [runLength, backslash, Nat.even_add]
      · simp [runLength, backslash]
    · rfl
  rw [ClosesQuote, ClosesQuote, same, Nat.add_comm, List.getElem?_cons_succ,
    List.getElem?_cons_succ]

/-- The offset of the quote that ends a string, behind the quote that opens it. -/
def closingQuote? (quoteMark : Char) (rest : List Char) : Option Nat :=
  -- The length up to and with the quote is zero when there is none.
  let tail := stringTailLength quoteMark rest
  if 0 < tail then some (tail - 1) else none

/-- Behind a backslash and what it takes along, the end is looked for anew. -/
theorem closingQuote?_escape (escaped : Char) (rest : List Char) :
    closingQuote? quoteMark ('\\' :: escaped :: rest) =
      (closingQuote? quoteMark rest).map (2 + ·) := by
  -- Both characters of an escape are passed, and the search goes on behind them.
  simp only [closingQuote?, stringTailLength]
  split
  · simp
    omega
  · simp

/-- Behind a character that is no backslash the end is looked for anew, unless it is the quote. -/
theorem closingQuote?_cons {char : Char} (plain : char ≠ '\\') (rest : List Char) :
    closingQuote? quoteMark (char :: rest) =
      if char = quoteMark then some 0 else (closingQuote? quoteMark rest).map (1 + ·) := by
  -- The mark itself ends the text, any other plain character is passed.
  rw [closingQuote?, stringTailLength_cons rest plain, closingQuote?]
  split
  · rfl
  · split
    · simp
      omega
    · simp

/-- A string ends on the first quote that no backslash takes along. -/
theorem isFirstOffset_closingQuote? (plain : quoteMark ≠ '\\') (rest : List Char) :
    IsFirstOffset (ClosesQuote quoteMark rest) (closingQuote? quoteMark rest) := by
  -- The induction is on the pieces that the rule takes: a backslash with the next character, or
  -- one other character.
  fun_induction stringTailLength quoteMark rest with
  | case1 escaped rest _ _ ih | case2 escaped rest _ _ ih =>
    rw [closingQuote?_escape]
    refine ih.shift (fun offset early => ?_) (closesQuote_escape escaped rest)
    rintro ⟨present, even⟩
    interval_cases offset
    · exact plain (by simpa using present.symm)
    · simp [backslashesBefore, runLength] at even
  | case3 char rest _ closes =>
    obtain rfl : char = quoteMark := by simpa using closes
    rw [closingQuote?_cons plain, if_pos rfl]
    exact ⟨⟨rfl, by simp [backslashesBefore, runLength]⟩, fun _ _ => Nat.zero_le _⟩
  | case4 char rest lone _ backslash =>
    -- A backslash that takes nothing along is the last character.
    obtain rfl : char = '\\' := by simpa using backslash
    obtain rfl : rest = [] := by
      cases rest with
      | nil => rfl
      | cons next more => exact absurd rfl (lone next more rfl)
    have nowhere : closingQuote? quoteMark ['\\'] = none := by
      simp [closingQuote?, stringTailLength, plain.symm]
    rw [nowhere]
    rintro offset ⟨present, -⟩
    cases offset with
    | zero => exact plain (by simpa using present.symm)
    | succ offset => simp at present
  | case5 char rest _ other unescaped _ _ ih | case6 char rest _ other unescaped _ _ ih =>
    have different : char ≠ '\\' := by simpa using unescaped
    have apart : char ≠ quoteMark := by simpa using other
    rw [closingQuote?_cons different, if_neg apart]
    refine ih.shift (fun offset early => ?_) (closesQuote_cons different rest)
    rintro ⟨present, -⟩
    interval_cases offset
    exact apart (by simpa using present)
  | case7 =>
    rintro offset ⟨present, -⟩
    simp at present

end Strings

section Comments

/-- Whether a star and a slash stand at an offset of a text. -/
def ClosesComment (chars : List Char) (offset : Nat) : Prop :=
  -- Both characters have to be there.
  ['*', '/'] <+: chars.drop offset

/-- A comment goes up to and with the first star and slash, or else to the end of the text. -/
theorem exists_isFirstOffset_closesComment (chars : List Char) :
    ∃ found, IsFirstOffset (ClosesComment chars) found ∧
      commentTailLength chars = found.elim chars.length (· + 2) := by
  fun_induction commentTailLength chars with
  | case1 rest =>
    -- The two closing characters stand right here.
    exact ⟨some 0, ⟨⟨rest, rfl⟩, fun _ _ => Nat.zero_le _⟩, rfl⟩
  | case2 char rest apart ih =>
    -- Here they do not, so the first offset lies one further than in the rest.
    obtain ⟨found, first, length⟩ := ih
    refine ⟨found.map (1 + ·), first.shift (fun offset early => ?_) fun offset => ?_, ?_⟩
    · rintro ⟨more, opens⟩
      interval_cases offset
      obtain ⟨star, slash⟩ := List.cons.inj opens
      exact apart more star.symm slash.symm
    · rw [ClosesComment, ClosesComment, Nat.add_comm, List.drop_succ_cons]
    · cases found with
      | none => simp [length]
      | some stop =>
        simp [length]
        omega
  | case3 =>
    -- Nothing is left to close the comment.
    refine ⟨none, ?_, rfl⟩
    rintro offset ⟨more, opens⟩
    simp at opens

end Comments

section Lexemes

/-- A quote in code is the front of a string, or a symbol when the string never ends. -/
theorem codeLexeme_quote {quoteMark : Char} (mark : quoteMark = '\'' ∨ quoteMark = '"')
    (rest : List Char) :
    codeLexeme (quoteMark :: rest) =
      (closingQuote? quoteMark rest).elim ⟨none, 1⟩
        fun stop => ⟨some .stringLiteral, stop + 2⟩ := by
  have string : stringLength (quoteMark :: rest) =
      (closingQuote? quoteMark rest).elim 0 (· + 2) := by
    have quoted : (quoteMark == '\'' || quoteMark == '"') = true := by simpa using mark
    rw [stringLength, if_pos quoted, closingQuote?]
    by_cases ends : 0 < stringTailLength quoteMark rest
    · simp [ends]
      omega
    · simp [ends]
  -- No other rule starts with a quote.
  have blank : isBlank quoteMark = false := by rcases mark with rfl | rfl <;> decide
  have word : opensWord quoteMark = false := by rcases mark with rfl | rfl <;> decide
  have digit : isDigit quoteMark = false := by rcases mark with rfl | rfl <;> decide
  have operator : operatorLength (quoteMark :: rest) = 0 := by
    rcases mark with rfl | rfl <;> simp [operatorLength, operators, List.isPrefixOf]
  have others : closeTagLength (quoteMark :: rest) = 0 ∧ docCommentLength (quoteMark :: rest) = 0 ∧
      blockCommentLength (quoteMark :: rest) = 0 ∧ attributeLength (quoteMark :: rest) = 0 ∧
      lineCommentLength (quoteMark :: rest) = 0 ∧ variableLength (quoteMark :: rest) = 0 ∧
      fractionLength (quoteMark :: rest) = 0 ∧ integerLength (quoteMark :: rest) = 0 ∧
      castLength (quoteMark :: rest) = 0 ∧ separatorLength (quoteMark :: rest) = 0 := by
    rcases mark with rfl | rfl <;>
      simp [closeTagLength, docCommentLength, blockCommentLength, attributeLength,
        lineCommentLength, variableLength, fractionLength, integerLength, digitsLength, digit,
        castLength, separatorLength]
  have whitespace : whitespaceLength (quoteMark :: rest) = 0 := by
    simp [whitespaceLength, runLength, blank]
  have name : wordLength (quoteMark :: rest) = 0 := by simp [wordLength, word]
  have decimal : decimalLength (quoteMark :: rest) = 0 := by
    simp [decimalLength, digitsLength, digit, others]
  cases found : closingQuote? quoteMark rest with
  | none =>
    rw [found, Option.elim_none] at string
    simp [codeLexeme, lexicalRules, LexicalRule.lexeme?, others, whitespace, name, decimal, string,
      operator]
  | some stop =>
    rw [found, Option.elim_some] at string
    simp [codeLexeme, lexicalRules, LexicalRule.lexeme?, others, whitespace, name, decimal, string]

/-- Whether a text opens with the mark of a documentation comment. -/
def opensDocumentation : List Char → Bool
  -- The white space behind the two stars belongs to the mark.
  | '/' :: '*' :: '*' :: blank :: _ => isBlank blank
  | _ => false

/-- The mark of a documentation comment is a slash, two stars and white space. -/
theorem opensDocumentation_iff {chars : List Char} :
    opensDocumentation chars = true ↔
      ∃ blank rest, chars = '/' :: '*' :: '*' :: blank :: rest ∧ isBlank blank = true := by
  -- Any other text falls to the case that opens none.
  constructor
  · intro opens
    unfold opensDocumentation at opens
    split at opens
    · rename_i blank rest
      exact ⟨blank, rest, rfl, opens⟩
    · simp at opens
  · rintro ⟨blank, rest, rfl, white⟩
    exact white

/-- A documentation comment is as long as the comment that it is. -/
theorem docCommentLength_eq_ite (chars : List Char) :
    docCommentLength chars = if opensDocumentation chars then blockCommentLength chars else 0 := by
  unfold opensDocumentation
  split
  · rename_i blank rest
    rw [docCommentLength]
    split
    · rename_i white
      -- White space is neither a star nor a slash, so no comment ends on it.
      have star : blank ≠ '*' := by
        rintro rfl
        exact absurd white (by decide)
      have slash : blank ≠ '/' := by
        rintro rfl
        exact absurd white (by decide)
      simp [blockCommentLength, commentTailLength, star, slash]
      omega
    · rfl
  · rename_i apart
    unfold docCommentLength
    split
    · rename_i blank rest
      exact absurd rfl (apart blank rest)
    · simp

/-- A slash and a star in code are the front of a comment. -/
theorem codeLexeme_comment (rest : List Char) :
    codeLexeme ('/' :: '*' :: rest) =
      ⟨some (if opensDocumentation ('/' :: '*' :: rest) then .docComment else .comment),
        2 + commentTailLength rest⟩ := by
  -- The rules tried before the comments do not read a slash.
  have tag : closeTagLength ('/' :: '*' :: rest) = 0 := by simp [closeTagLength]
  have whitespace : whitespaceLength ('/' :: '*' :: rest) = 0 := by
    simp [whitespaceLength, runLength, show isBlank '/' = false by decide]
  have block : blockCommentLength ('/' :: '*' :: rest) = 2 + commentTailLength rest := rfl
  have positive : 0 < 2 + commentTailLength rest := by omega
  simp only [codeLexeme, lexicalRules, List.findSome?_cons, LexicalRule.lexeme?, tag, whitespace,
    docCommentLength_eq_ite, block]
  -- The two rules for comments take the same length and differ in the kind.
  by_cases documents : opensDocumentation ('/' :: '*' :: rest) = true
  · simp [documents]
  · simp [documents]

end Lexemes

/-- How a token that starts on a quote ends, by the text from the quote on. -/
structure QuoteEnds (quoteMark : Char) (chars : List Char) (token : Token) : Prop where
  /-- A string goes up to the first later quote behind an even number of backslashes. -/
  closed : ∀ stop, IsLeast {offset | 1 ≤ offset ∧ ClosesQuote quoteMark chars offset} stop →
    token.isKind .stringLiteral = true ∧ token.text.toList = chars.take (stop + 1)
  /-- Without such a quote the first one stands alone. -/
  unclosed : (∀ offset, 1 ≤ offset → ¬ClosesQuote quoteMark chars offset) →
    token = .symbol quoteMark

/-- How a token that starts on a slash and a star ends, by the text from the slash on. -/
structure CommentEnds (chars : List Char) (token : Token) (after : List Token) : Prop where
  /-- A comment goes up to and with the first star and slash behind its two first characters. -/
  closed : ∀ stop, IsLeast {offset | 2 ≤ offset ∧ ClosesComment chars offset} stop →
    token.text.toList = chars.take (stop + 2)
  /-- Without a star and a slash it is the last token and goes to the end of the text. -/
  unclosed : (∀ offset, 2 ≤ offset → ¬ClosesComment chars offset) →
    token.text.toList = chars ∧ after = []
  /-- It documents something exactly when two stars and white space open it. -/
  documents : token.isKind .docComment = true ↔
    ∃ blank rest, chars = '/' :: '*' :: '*' :: blank :: rest ∧ isBlank blank = true
  /-- Otherwise it is a plain comment. -/
  plain : token.isKind .docComment = false → token.isKind .comment = true

namespace Round

variable {token : Token} {after : List Token} {rest : List Char}

/-- A token of code that starts on a quote ends as it should. -/
theorem quoteEnds {quoteMark : Char} (mark : quoteMark = '\'' ∨ quoteMark = '"')
    (round : Round .code (quoteMark :: rest) token after) :
    QuoteEnds quoteMark (quoteMark :: rest) token := by
  -- The first closing mark is searched for behind the opening one.
  have plain : quoteMark ≠ '\\' := by rcases mark with rfl | rfl <;> decide
  have first := (isFirstOffset_closingQuote? plain rest).behind (closesQuote_cons plain rest)
  have kind := round.kind
  have taken := round.taken
  rw [nextLexeme, codeLexeme_quote mark] at kind taken
  constructor
  · -- A mark that closes it is the one found, and the token ends with it.
    intro stop least
    have found := first.unique (show IsFirstOffset _ (some stop) from least)
    obtain ⟨tail, closing, rfl⟩ := Option.map_eq_some_iff.mp found
    rw [closing, Option.elim_some] at kind taken
    refine ⟨by rw [Token.isKind_eq, kind]; rfl, ?_⟩
    rw [taken]
    congr 1
    show tail + 2 = 1 + tail + 1
    omega
  · -- Without such a mark no string is read, and the mark is a symbol.
    intro nowhere
    have found := first.unique (show IsFirstOffset _ none from fun offset here =>
      nowhere offset here.1 here.2)
    rw [Option.map_eq_none_iff.mp found, Option.elim_none] at kind taken
    cases token with
    | symbol char => simpa [Token.text] using taken
    | typed kind text line => simp [Token.kind?] at *

/-- A token of code that starts on a slash and a star ends as it should. -/
theorem commentEnds (full : ∀ next ∈ after, next.text ≠ "")
    (round : Round .code ('/' :: '*' :: rest) token after) :
    CommentEnds ('/' :: '*' :: rest) token after := by
  have alike : ∀ offset, ClosesComment ('/' :: '*' :: rest) (2 + offset) ↔
      ClosesComment rest offset := by
    intro offset
    rw [ClosesComment, ClosesComment, Nat.add_comm, List.drop_succ_cons, List.drop_succ_cons]
  obtain ⟨found, first, length⟩ := exists_isFirstOffset_closesComment rest
  have search := first.behind alike
  have kind := round.kind
  have taken := round.taken
  rw [nextLexeme, codeLexeme_comment] at kind taken
  simp only [length] at taken
  constructor
  · intro stop least
    have stopped := search.unique (show IsFirstOffset _ (some stop) from least)
    obtain ⟨tail, rfl, rfl⟩ := Option.map_eq_some_iff.mp stopped
    rwa [Nat.add_assoc]
  · intro nowhere
    have missing := search.unique (show IsFirstOffset _ none from fun offset here =>
      nowhere offset here.1 here.2)
    obtain rfl := Option.map_eq_none_iff.mp missing
    have whole : token.text.toList = '/' :: '*' :: rest := by
      rw [taken, Option.elim_none, List.take_of_length_le (by simp; omega)]
    refine ⟨whole, ?_⟩
    -- Nothing is left for further tokens, and none of them is empty.
    have left := round.text
    rw [whole, List.self_eq_append_right] at left
    have few := length_le_textOf_length full
    rw [← String.length_toList, left] at few
    exact List.eq_nil_of_length_eq_zero (Nat.le_zero.mp few)
  · rw [Token.isKind_eq, kind, ← opensDocumentation_iff]
    split <;> simp_all
  · intro other
    rw [Token.isKind_eq, kind] at other ⊢
    split <;> simp_all

end Round

/--
Strings and comments end where they should, at every place of code where a token starts.

A quote opens a string that goes up to the first later quote behind an even number of backslashes,
and is a symbol when there is none.
A slash and a star open a comment that goes up to and with the first star and slash behind them, or
to the end of the source, and it is one for documentation exactly when a second star and white space
follow.
-/
theorem strings_and_comments_end {source : String} {before after : List Token} {token : Token}
    (cut : tokenize source = before ++ token :: after) (coded : modeBehind .html before = .code) :
    let chars := source.toList.drop (textOf before).toList.length
    (∀ quoteMark, quoteMark = '\'' ∨ quoteMark = '"' → chars.head? = some quoteMark →
      QuoteEnds quoteMark chars token) ∧
    (['/', '*'] <+: chars → CommentEnds chars token after) := by
  intro chars
  -- What is left of the source is the text of the tokens from this one on.
  have left : chars = (textOf (token :: after)).toList := by
    have whole := textOf_tokenizeFrom .html 1 source.toList
    rw [← tokenize, cut, textOf_append, String.toList_append] at whole
    show source.toList.drop _ = _
    rw [← whole, List.drop_left]
  have round := tokenize_round cut
  rw [coded, ← left] at round
  constructor
  · intro quoteMark mark opens
    obtain ⟨rest, shape⟩ := List.head?_eq_some_iff.mp opens
    rw [shape] at round ⊢
    exact round.quoteEnds mark
  · rintro ⟨rest, shape⟩
    have full : ∀ next ∈ after, next.text ≠ "" := by
      intro next listed
      apply tokenizeFrom_text_ne_empty .html 1 source.toList
      rw [← tokenize, cut]
      simp [listed]
    rw [← shape] at round ⊢
    exact round.commentEnds full

/--
A string ends behind two backslashes, while the one behind it never does.

The quote of that one is a symbol, and so is the next quote, which one backslash precedes.
The comment for documentation at the end is not closed.
-/
theorem strings_and_comments_end_escaped :
    let string : Token := .typed .stringLiteral "'a\\\\'" 1
    let doc : Token := .typed .docComment "/** x" 1
    tokenize "<?php 'a\\\\'\"\\\"/** x" = [.typed .openTag "<?php " 1, string, .symbol '"',
        .typed .nameSeparator "\\" 1, .symbol '"', doc] ∧
      QuoteEnds '\'' "'a\\\\'\"\\\"/** x".toList string ∧
      QuoteEnds '"' "\"\\\"/** x".toList (.symbol '"') ∧ CommentEnds "/** x".toList doc [] := by
  intro string doc
  -- One string, then a mark and a comment that nothing closes.
  have cut : tokenize "<?php 'a\\\\'\"\\\"/** x" = [.typed .openTag "<?php " 1] ++ string ::
      [.symbol '"', .typed .nameSeparator "\\" 1, .symbol '"', doc] := by
    decide +kernel
  have next : tokenize "<?php 'a\\\\'\"\\\"/** x" = [.typed .openTag "<?php " 1, string] ++
      .symbol '"' :: [.typed .nameSeparator "\\" 1, .symbol '"', doc] := cut
  have last : tokenize "<?php 'a\\\\'\"\\\"/** x" = [.typed .openTag "<?php " 1, string,
      .symbol '"', .typed .nameSeparator "\\" 1, .symbol '"'] ++ doc :: [] := cut
  refine ⟨cut, ?_, ?_, ?_⟩
  · exact (strings_and_comments_end cut rfl).1 '\'' (.inl rfl) (by decide)
  · convert (strings_and_comments_end next rfl).1 '"' (.inr rfl) (by decide) using 1
    decide
  · convert (strings_and_comments_end last rfl).2 (by decide) using 1
    decide

end PhpOutline
