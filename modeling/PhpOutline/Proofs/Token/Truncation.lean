import PhpOutline.Proofs.Token.CutStable
import PhpOutline.Proofs.Token.Tokenize

/-!
Tokens stay the same when the source is cut off behind them.

Each round of the loop cuts the same lexeme off, because no rule looks past what it takes.
Only plain text looks further, for the tag that ends it, so that tag has to be kept as well.
-/

namespace PhpOutline

/-- A stable rule cuts the same lexeme off a text that was cut off behind it. -/
theorem LexicalRule.lexeme?_kept {rule : LexicalRule} (stable : CutStable rule.length)
    {kept cut : List Char} (fits : rule.length (kept ++ cut) ≤ kept.length) :
    rule.lexeme? kept = rule.lexeme? (kept ++ cut) := by
  simp only [LexicalRule.lexeme?, stable kept cut fits, List.take_append_of_le_length fits]

/-- The first of some stable rules that applies is the same before and after the cut. -/
theorem findSome?_lexeme?_kept {rules : List LexicalRule} {kept cut : List Char}
    (stable : ∀ rule ∈ rules, CutStable rule.length)
    (fits : ∀ lexeme, rules.findSome? (LexicalRule.lexeme? (kept ++ cut)) = some lexeme →
      lexeme.length ≤ kept.length) :
    rules.findSome? (LexicalRule.lexeme? kept) =
      rules.findSome? (LexicalRule.lexeme? (kept ++ cut)) := by
  induction rules with
  | nil => rfl
  | cons rule rules ih =>
    have first : rule.length (kept ++ cut) ≤ kept.length := by
      rcases Nat.eq_zero_or_pos (rule.length (kept ++ cut)) with none | taken
      · omega
      · -- A rule that applies decides, and its lexeme fits.
        have applied : rule.lexeme? (kept ++ cut) =
            some ⟨rule.kind (String.ofList ((kept ++ cut).take (rule.length (kept ++ cut)))),
              rule.length (kept ++ cut)⟩ := by
          simp [LexicalRule.lexeme?, taken]
        exact fits _ (by rw [List.findSome?_cons, applied])
    simp only [List.findSome?_cons, LexicalRule.lexeme?_kept (stable rule (by simp)) first]
      at fits ⊢
    cases applied : rule.lexeme? (kept ++ cut) with
    | some lexeme => rfl
    | none =>
      rw [applied] at fits
      exact ih (fun other listed => stable other (by simp [listed])) fits

/-- A lexeme of code is the same before and after the cut. -/
theorem codeLexeme_kept {kept cut : List Char}
    (fits : (codeLexeme (kept ++ cut)).length ≤ kept.length) :
    codeLexeme kept = codeLexeme (kept ++ cut) := by
  -- Every rule is stable, so the one that reads the lexeme reads the same.
  rw [codeLexeme, codeLexeme,
    findSome?_lexeme?_kept fun rule listed => lexicalRules_cutStable listed]
  intro lexeme applied
  simpa [codeLexeme, applied] using fits

/-- Plain text whose tag is kept ends at the same place before and after the cut. -/
theorem htmlLength_kept {kept cut : List Char}
    (tagged : 0 < openTagLength ((kept ++ cut).drop (htmlLength (kept ++ cut))))
    (fits : htmlLength (kept ++ cut) +
      openTagLength ((kept ++ cut).drop (htmlLength (kept ++ cut))) ≤ kept.length) :
    htmlLength kept = htmlLength (kept ++ cut) := by
  induction kept with
  | nil =>
    rw [List.length_nil] at fits
    omega
  | cons char rest ih =>
    rw [List.cons_append] at tagged fits ⊢
    have here := openTagLength_cutStable (char :: rest) cut
    rw [List.cons_append] at here
    by_cases tag : 0 < openTagLength (char :: (rest ++ cut))
    · -- The tag stands right here, and all of it is kept.
      simp only [htmlLength, tag, if_true, List.drop_zero, Nat.zero_add] at fits ⊢
      rw [if_pos (by rw [here fits]; exact tag)]
    · simp only [htmlLength, tag, if_false, List.drop_succ_cons, List.length_cons] at tagged fits ⊢
      rw [if_neg (by rw [here (by omega)]; exact tag), ih tagged (by omega)]

/-- Behind plain text no further plain text follows. -/
theorem htmlLength_drop (chars : List Char) : htmlLength (chars.drop (htmlLength chars)) = 0 := by
  -- Over the characters: what is left starts with the tag, or is empty.
  induction chars with
  | nil => rfl
  | cons char rest ih =>
    simp only [htmlLength]
    split
    · rename_i tag
      simp [htmlLength, tag]
    · exact ih

/-- A lexeme outside the tags is the same with and without the cut if a tag ends in what is kept. -/
theorem htmlLexeme_kept {kept cut : List Char}
    (tagged : 0 < openTagLength ((kept ++ cut).drop (htmlLength (kept ++ cut))))
    (fits : htmlLength (kept ++ cut) +
      openTagLength ((kept ++ cut).drop (htmlLength (kept ++ cut))) ≤ kept.length) :
    htmlLexeme kept = htmlLexeme (kept ++ cut) := by
  -- The tag is still there, so the text before it ends where it did.
  have html := htmlLength_kept tagged fits
  simp only [htmlLexeme, html]
  split
  · rfl
  · -- Without such a text the tag itself is read, and it fits.
    rename_i plain
    have none : htmlLength (kept ++ cut) = 0 := by omega
    rw [none, List.drop_zero, Nat.zero_add] at fits
    rw [openTagLength_cutStable kept cut fits, List.take_append_of_le_length fits]

/-- The text of an emitted token is as long as its lexeme. -/
theorem length_nextLexeme_token_text (mode : Mode) (line : Nat) (char : Char) (rest : List Char) :
    ((nextLexeme mode (char :: rest)).token line char rest).text.length =
      (nextLexeme mode (char :: rest)).length := by
  rw [← String.length_toList, nextLexeme_token_text, List.length_take]
  exact Nat.min_eq_left (nextLexeme_length_le mode char rest)

/-- Plain text is followed by a tag, unless the source ends with it. -/
theorem nextLexeme_behind_html {chars rest : List Char} {char : Char}
    (behind : chars.drop (htmlLength chars) = char :: rest) :
    (nextLexeme .html (char :: rest)).length = openTagLength (char :: rest) ∧
      0 < openTagLength (char :: rest) := by
  -- Behind the text stands a tag, and it is the next lexeme.
  have plain := htmlLength_drop chars
  rw [behind] at plain
  refine ⟨?_, openTagLength_pos_of_htmlLength char rest plain⟩
  rw [nextLexeme, htmlLexeme, if_neg (by omega)]

/-- The next lexeme is the same with and without the cut, if the last of some tokens is no text. -/
theorem nextLexeme_kept {mode : Mode} {line count : Nat} {char : Char} {rest cut : List Char}
    (ends : (textOf ((tokenizeFrom mode line (char :: (rest ++ cut))).take (count + 1))).length ≤
      (char :: rest).length)
    (coded : ((tokenizeFrom mode line (char :: (rest ++ cut))).take (count + 1)).getLast?.any
      (Token.isKind .inlineHtml) = false) :
    nextLexeme mode (char :: rest) = nextLexeme mode (char :: (rest ++ cut)) := by
  rw [tokenizeFrom_cons, List.take_succ_cons] at ends coded
  rw [textOf_cons, String.length_append, length_nextLexeme_token_text] at ends
  cases mode with
  | code => exact codeLexeme_kept (by rw [List.cons_append]; simp only [nextLexeme] at ends; omega)
  | html =>
    rcases Nat.eq_zero_or_pos (htmlLength (char :: (rest ++ cut))) with none | plain
    · -- The tag stands right here, and it is the token that ends in the kept text.
      have tagged := openTagLength_pos_of_htmlLength _ _ none
      simp only [nextLexeme, htmlLexeme, none, Nat.lt_irrefl, if_false] at ends
      exact htmlLexeme_kept (by simpa [none] using tagged) (by simp [none] at ends ⊢; omega)
    · have html : nextLexeme .html (char :: (rest ++ cut)) =
          ⟨some .inlineHtml, htmlLength (char :: (rest ++ cut))⟩ := by
        rw [nextLexeme, htmlLexeme, if_pos plain]
      have mode : (nextLexeme .html (char :: (rest ++ cut))).nextMode = .html := by
        rw [html]
        rfl
      rw [mode, html] at ends coded
      -- Plain text is not the last token, so the tag behind it ends in the kept text too.
      cases behind : (char :: (rest ++ cut)).drop (htmlLength (char :: (rest ++ cut))) with
      | nil => simp [behind, Lexeme.token, Token.isKind] at coded
      | cons next more =>
        cases count with
        | zero => simp [Lexeme.token, Token.isKind] at coded
        | succ count =>
          obtain ⟨tag, tagged⟩ := nextLexeme_behind_html behind
          simp only [behind] at ends
          rw [tokenizeFrom_cons, List.take_succ_cons, textOf_cons, String.length_append,
            length_nextLexeme_token_text, tag] at ends
          refine htmlLexeme_kept ?_ ?_
          · rwa [List.cons_append, behind]
          · rw [List.cons_append, behind]
            omega

/-- The first tokens of a text are the same before and after the cut. -/
theorem tokenizeFrom_kept {mode : Mode} {line count : Nat} {kept cut : List Char}
    (ends : (textOf ((tokenizeFrom mode line (kept ++ cut)).take count)).length ≤ kept.length)
    (coded : ((tokenizeFrom mode line (kept ++ cut)).take count).getLast?.any
      (Token.isKind .inlineHtml) = false) :
    (tokenizeFrom mode line kept).take count =
      (tokenizeFrom mode line (kept ++ cut)).take count := by
  -- The induction is on the number of tokens, each of which is one round of the loop.
  induction count generalizing mode line kept with
  | zero => simp
  | succ count ih =>
    cases kept with
    | nil =>
      cases cut with
      | nil => rfl
      | cons char rest =>
        -- The first token would take a character that was cut off.
        have positive := nextLexeme_length_pos mode char rest
        rw [List.nil_append, tokenizeFrom_cons, List.take_succ_cons, textOf_cons,
          String.length_append, length_nextLexeme_token_text, List.length_nil] at ends
        omega
    | cons char rest =>
      rw [List.cons_append] at ends coded ⊢
      have same := nextLexeme_kept ends coded
      rw [tokenizeFrom_cons, List.take_succ_cons] at ends coded
      rw [tokenizeFrom_cons, tokenizeFrom_cons, List.take_succ_cons, List.take_succ_cons, same]
      rw [textOf_cons, String.length_append, length_nextLexeme_token_text] at ends
      generalize nextLexeme mode (char :: (rest ++ cut)) = lexeme at *
      have within : lexeme.length ≤ (char :: rest).length := by omega
      have taken : (char :: (rest ++ cut)).take lexeme.length =
          (char :: rest).take lexeme.length := by
        rw [← List.cons_append, List.take_append_of_le_length within]
      have left : (char :: (rest ++ cut)).drop lexeme.length =
          (char :: rest).drop lexeme.length ++ cut := by
        rw [← List.cons_append, drop_kept cut within]
      have token : lexeme.token line char rest = lexeme.token line char (rest ++ cut) := by
        simp only [Lexeme.token, taken]
      rw [taken, left] at ends coded ⊢
      rw [token, ih]
      · rw [List.length_drop]
        omega
      · -- The last token is that of the later ones, if there are any.
        rw [List.getLast?_cons] at coded
        cases last : ((tokenizeFrom lexeme.nextMode
          (line + ((char :: rest).take lexeme.length).count '\n')
          ((char :: rest).drop lexeme.length ++ cut)).take count).getLast? with
        | none => rfl
        | some later => simpa [last] using coded

/--
Cutting a source off behind a token leaves that token and all before it as they were.

Plain text is the one exception, because it goes on up to the next tag.
-/
theorem tokenize_truncated {kept cut : String} {count : Nat}
    (ends : (textOf ((tokenize (kept ++ cut)).take count)).length ≤ kept.length)
    (coded : ((tokenize (kept ++ cut)).take count).getLast?.any
      (Token.isKind .inlineHtml) = false) :
    (tokenize kept).take count = (tokenize (kept ++ cut)).take count := by
  -- The rounds run alike as long as their tokens end within what is kept.
  rw [tokenize, String.toList_append] at ends coded
  rw [tokenize, tokenize, String.toList_append]
  exact tokenizeFrom_kept (by rwa [String.length_toList]) coded

/-- A number that loses its digits to the cut leaves the tokens in front of it as they were. -/
theorem tokenize_truncated_before_number :
    let kept := "<b><?php $a .= 1."
    let cut := "5;"
    (tokenize (kept ++ cut)).drop 6 = [.typed .decimal "1.5" 1, .symbol ';'] ∧
      (tokenize kept).drop 6 = [.typed .integer "1" 1, .symbol '.'] ∧
      (tokenize kept).take 6 = (tokenize (kept ++ cut)).take 6 := by
  -- The number is cut in two, and the six tokens before it end in front of the cut.
  intro kept cut
  have whole : tokenize (kept ++ cut) =
      [.typed .inlineHtml "<b>" 1, .typed .openTag "<?php " 1, .typed .variableName "$a" 1,
       .typed .whitespace " " 1, .typed .operator ".=" 1, .typed .whitespace " " 1,
       .typed .decimal "1.5" 1, .symbol ';'] := by
    cbv
  refine ⟨by rw [whole]; rfl, by cbv, tokenize_truncated ?_ ?_⟩
  · rw [whole]
    decide
  · rw [whole]
    decide

end PhpOutline
