import Mathlib
import PhpOutline.Proofs.SpanOrder
import PhpOutline.Proofs.Text.Split
import PhpOutline.Proofs.Text.Trim
import PhpOutline.Proofs.Trivia.Outline

/-!
Comments in a list of interfaces belong to the names that are read off it.

White space in the place of comments leaves every search where it was, so the same list is found.
Only trimming and the texts of the tokens tell the two apart, and the characters of the names that
are no white space show whether a comment was replaced.
-/

namespace PhpOutline

/-- The number of characters of a text that are no white space. -/
def ink (text : String) : Nat :=
  -- The characters that can be seen.
  text.toList.countP fun char => !isBlank char

/-- What happens to a token: it stays, or white space comes in the place of a comment. -/
inductive Replacement where
  | keep (token : Token)
  /-- The comment has a character that can be seen, and the white space has none. -/
  | blank (comment filler : Token)
      (commented : comment.kind?.any Kind.isComment = true ∧ 0 < ink comment.text)
      (filled : filler.isKind .whitespace = true ∧ ink filler.text = 0)

/-- The token that was there. -/
def Replacement.before : Replacement → Token
  -- A comment may be replaced.
  | .keep token => token
  | .blank comment _ _ _ => comment

/-- The token that is there afterwards. -/
def Replacement.after : Replacement → Token
  -- Only a comment is replaced.
  | .keep token => token
  | .blank _ filler _ _ => filler

section Tokens

variable (change : Replacement)

/-- A token stays, or trivia comes in the place of trivia. -/
theorem Replacement.same_or_trivia : change.after = change.before ∨
    change.before.isTrivia = true ∧ change.after.isTrivia = true := by
  -- A change keeps its token, or puts white space for a comment.
  cases change with
  | keep token => exact .inl rfl
  | blank comment filler commented filled =>
    right
    constructor
    · cases comment with
      | symbol char => simp [Token.kind?] at commented
      | typed kind text line =>
        have note : kind.isComment = true := by simpa [Token.kind?] using commented.1
        simp [Replacement.before, Token.isTrivia, note]
    · obtain ⟨text, line, rfl⟩ := Token.isKind_iff.mp filled.1
      rfl

/-- A structural test gives the same answer. -/
theorem Replacement.test_after {test : Token → Bool} (structural : Structural test) :
    test change.after = test change.before := by
  -- What changes is trivia before and after, and a structural test fails on that.
  rcases change.same_or_trivia with same | ⟨was, is⟩
  · rw [same]
  · rw [structural.trivia _ was, structural.trivia _ is]

/-- What was trivia is trivia. -/
theorem Replacement.isTrivia_after : change.after.isTrivia = change.before.isTrivia := by
  -- Trivia is changed for trivia only.
  rcases change.same_or_trivia with same | ⟨was, is⟩
  · rw [same]
  · rw [was, is]

/-- White space stays. -/
theorem Replacement.after_of_whitespace (white : change.before.isKind .whitespace = true) :
    change.after = change.before := by
  -- Only comments are changed.
  cases change with
  | keep token => rfl
  | blank comment filler commented filled =>
    obtain ⟨text, line, rfl⟩ := Token.isKind_iff.mp white
    simp [Token.kind?, Kind.isComment] at commented

/-- A token that changes loses characters that can be seen. -/
theorem Replacement.ink_after_lt (changed : change.after ≠ change.before) :
    ink change.after.text < ink change.before.text := by
  -- A change that keeps its token changes nothing, so this one blanks a comment.
  cases change with
  | keep token => exact absurd rfl changed
  | blank comment filler commented filled =>
    rw [Replacement.after, Replacement.before, filled.2]
    exact commented.2

/-- No token gains characters that can be seen. -/
theorem Replacement.ink_after_le : ink change.after.text ≤ ink change.before.text := by
  -- Where anything is changed, ink is lost.
  by_cases changed : change.after = change.before
  · rw [changed]
  · exact Nat.le_of_lt (change.ink_after_lt changed)

end Tokens

section Searching

variable (changes : List Replacement)

/-- The bare tokens are the same. -/
theorem bare_replaced :
    bare (changes.map Replacement.after) = bare (changes.map Replacement.before) := by
  -- Over the changes: each keeps its token or drops out on both sides.
  induction changes with
  | nil => rfl
  | cons change changes ih =>
    rw [List.map_cons, List.map_cons]
    rcases change.same_or_trivia with same | ⟨was, is⟩
    · rw [same, ← List.singleton_append, bare_append, ih, ← bare_append, List.singleton_append]
    · rw [bare_cons_of_trivia is, bare_cons_of_trivia was, ih]

/-- Trivia stands in the same gaps, whether some was seen before or not. -/
theorem gapsFrom_replaced (seen : Bool) :
    gapsFrom seen (changes.map Replacement.after) =
      gapsFrom seen (changes.map Replacement.before) := by
  -- Over the changes: a gap depends on which tokens are trivia, and that stays.
  induction changes generalizing seen with
  | nil => rfl
  | cons change changes ih => simp only [List.map_cons, gapsFrom, change.isTrivia_after, ih]

/-- Imports and namespace are the same, so names are completed alike. -/
theorem nameScope_replaced :
    NameScope.of (changes.map Replacement.after) =
      NameScope.of (changes.map Replacement.before) := by
  -- The scope is read off the imports and the namespace, which trivia does not move.
  have same : SameButTrivia (changes.map Replacement.after) (changes.map Replacement.before) :=
    ⟨bare_replaced changes, gapsFrom_replaced changes false⟩
  rw [NameScope.of, NameScope.of, same.imports_eq, same.namespaceName?_eq]

/-- A structural search finds the same. -/
theorem findFrom_replaced {test : Token → Bool} (structural : Structural test) (offset : Nat) :
    findFrom test (changes.map Replacement.after) offset =
      findFrom test (changes.map Replacement.before) offset := by
  -- The search runs over the changes, whose two sides give the test the same answer.
  have tested : test ∘ Replacement.after = test ∘ Replacement.before :=
    funext fun change => change.test_after structural
  rw [findFrom, findFrom, ← List.map_drop, ← List.map_drop, List.findIdx?_map, List.findIdx?_map,
    tested]

/-- A structural test at an index gives the same answer. -/
theorem any_getElem?_replaced {test : Token → Bool} (structural : Structural test) (index : Nat) :
    (changes.map Replacement.after)[index]?.any test =
      (changes.map Replacement.before)[index]?.any test := by
  -- Both sides of a change stand at the same place.
  rw [List.getElem?_map, List.getElem?_map]
  cases changes[index]? with
  | none => rfl
  | some change => exact change.test_after structural

end Searching

/-- Verdicts that are of one sort, go on alike and report spans that are related. -/
inductive SameVerdict (related : Span → Span → Prop) : Verdict → Verdict → Prop where
  | pass (last : Nat) : SameVerdict related (.pass last) (.pass last)
  | report {span other : Span} (last : Nat) (alike : related span other) :
    SameVerdict related (.report span last) (.report other last)
  | halt : SameVerdict related .halt .halt

/-- Where the verdicts agree at each index, the spans of two sweeps are related one by one. -/
theorem forall₂_sweepAt {recognize : Site → Verdict} {related : Span → Span → Prop}
    {tokens others : List Token} (length : tokens.length = others.length)
    (alike : ∀ index, index < tokens.length →
      SameVerdict related (recognize (Site.at tokens index)) (recognize (Site.at others index)))
    (index : Nat) :
    List.Forall₂ related (sweepAt recognize tokens index) (sweepAt recognize others index) := by
  -- Every verdict but the last one brings both sweeps closer to the end.
  induction remaining : tokens.length - index using Nat.strongRecOn generalizing index with
  | ind _ ih =>
    rcases Nat.lt_or_ge index tokens.length with inside | ended
    · have verdicts := alike index inside
      rw [sweepAt_step inside, sweepAt_step (by omega)]
      cases decided : recognize (Site.at tokens index) <;>
        cases again : recognize (Site.at others index) <;>
        rw [decided, again] at verdicts <;> cases verdicts
      · exact ih _ (by omega) _ rfl
      · rename_i related
        exact .cons related (ih _ (by omega) _ rfl)
      · exact .nil
    · rw [sweepAt_end ended, sweepAt_end (by omega)]
      exact .nil

/-- A span covers a window of tokens from its first one on, without the white space at its end. -/
def Span.trims (tokens : List Token) (width : Nat) (span : Span) : Prop :=
  -- A window has so many tokens, unless the list ends before.
  span.last + 1 = span.first +
    (trimRight .whitespace ((tokens.drop span.first).take width)).length

/-- The tokens of such a span are those at the front of its window. -/
theorem Span.trims.tokens_eq {tokens : List Token} {width : Nat} {span : Span}
    (trims : span.trims tokens width) (list : List Token) :
    span.tokens list = ((list.drop span.first).take width).take
      (trimRight .whitespace ((tokens.drop span.first).take width)).length := by
  -- What is trimmed off the window is cut off its end.
  have shorter : (trimRight .whitespace ((tokens.drop span.first).take width)).length ≤ width :=
    (List.rdropWhile_prefix _ _).length_le.trans (List.length_take_le _ _)
  rw [Span.trims] at trims
  rw [Span.tokens, trims, List.drop_take, Nat.add_sub_cancel_left, List.take_take,
    Nat.min_eq_left shorter]

/-- A list of interfaces behind an index is trimmed up to its brace. -/
theorem trims_of_recognized (tokens : List Token) (index start brace : Nat) :
    Span.trims tokens (brace - start)
      { first := index + 1 + start
        last := index + start + interfacesLength (tokens.drop (index + 1)) start brace } := by
  -- The length is that of the window without its white space at the end.
  rw [Span.trims, interfacesLength, trimRight, accepts_whitespace, List.length_reverse,
    List.drop_take, List.drop_drop]
  simp only
  omega

/-- At each index the lists of interfaces are found alike, and trimmed on their own. -/
theorem sameVerdict_recognizeInterfaces (changes : List Replacement) {index : Nat}
    (inside : index < changes.length) :
    SameVerdict
      (fun span other => other.first = span.first ∧ ∃ width,
        span.trims (changes.map Replacement.before) width ∧
          other.trims (changes.map Replacement.after) width)
      (recognizeInterfaces (Site.at (changes.map Replacement.before) index))
      (recognizeInterfaces (Site.at (changes.map Replacement.after) index)) := by
  -- Both lists show the two sides of the same changes from the index on.
  have ahead : ∀ view : Replacement → Token, (Site.at (changes.map view) index).ahead =
      view changes[index] :: (changes.drop (index + 1)).map view := by
    intro view
    simp only [Site.at]
    rw [← List.map_drop, List.drop_eq_getElem_cons inside, List.map_cons]
  have place : ∀ view : Replacement → Token, (Site.at (changes.map view) index).index = index :=
    fun view => Site.index_at (by simpa using Nat.le_of_lt inside)
  -- Every search and test of the recognizer is structural, so the branches agree.
  simp only [recognizeInterfaces, ahead, place, significantFrom_eq_findFrom,
    findFrom_replaced _ Structural.noTrivia, findFrom_replaced _ (.or (.symbol '{') (.symbol ';')),
    any_getElem?_replaced _ (.symbol '{'), Replacement.test_after _ (.word .implementsWord)]
  split
  · split
    · exact .halt
    · split
      · exact .halt
      · rename_i start _ _ brace _
        split
        · -- The spans start together, and each trims the same window of its own list.
          refine .report _ ⟨rfl, brace - start, ?_, ?_⟩
          · rw [List.map_drop]
            exact trims_of_recognized (changes.map Replacement.before) index start brace
          · rw [List.map_drop]
            exact trims_of_recognized (changes.map Replacement.after) index start brace
        · exact .pass _
  · exact .pass _

/-- The names between the commas of a list, without white space around them. -/
def listedNames (tokens : List Token) : List String :=
  -- Between two commas without a name nothing is listed.
  ((splitTokens (.symbol ',') tokens none).map fun group =>
    textOf (trimBoth .whitespace group)).filter fun name => !name.isEmpty

/-- White space at the end of a list adds no name. -/
theorem listedNames_concat {token : Token} (white : token.isKind .whitespace = true)
    (tokens : List Token) : listedNames (tokens ++ [token]) = listedNames tokens := by
  -- White space cuts no group, so it lands in the last one, which is trimmed.
  have plain : (Pattern.symbol ',').accepts token = false := by
    obtain ⟨text, line, rfl⟩ := Token.isKind_iff.mp white
    rfl
  have same : ∀ group, trimBoth .whitespace (group ++ [token]) = trimBoth .whitespace group :=
    fun group => trimmed_concat (by rw [accepts_whitespace, white]) group
  obtain ⟨groups, last, split, longer⟩ := splitAtMost_concat plain tokens
  rw [listedNames, listedNames, splitTokens, splitTokens, split, longer]
  simp [same]

/-- The white space at the end of a list plays no part. -/
theorem listedNames_trimRight (tokens : List Token) :
    listedNames (trimRight .whitespace tokens) = listedNames tokens := by
  -- Token by token from the end: what is trimmed off is white space.
  induction tokens using List.reverseRecOn with
  | nil => rfl
  | append_singleton tokens token ih =>
    have ended : trimRight .whitespace (tokens ++ [token]) =
        if token.isKind .whitespace then trimRight .whitespace tokens else tokens ++ [token] := by
      rw [← accepts_whitespace]
      exact List.rdropWhile_concat _ _ _
    cases white : token.isKind .whitespace with
    | true => rw [ended, if_pos white, ih, listedNames_concat white]
    | false => rw [ended, if_neg (by simp [white])]

section Ink

/-- The characters of a list of tokens that can be seen are those of its tokens. -/
theorem ink_textOf (tokens : List Token) :
    ink (textOf tokens) = (tokens.map fun token => ink token.text).sum := by
  -- Over the tokens, as the text is put together from theirs.
  induction tokens with
  | nil => rfl
  | cons token tokens ih =>
    rw [List.map_cons, List.sum_cons, ← ih]
    simp [ink]

/-- What can be seen of the listed names stands in the groups. -/
theorem sum_ink_listedNames (tokens : List Token) :
    ((listedNames tokens).map ink).sum =
      ((splitTokens (.symbol ',') tokens none).map fun group =>
        ink (textOf (trimBoth .whitespace group))).sum := by
  -- Over the groups: an empty name is left out, and it holds no ink.
  rw [listedNames]
  induction splitTokens (.symbol ',') tokens none with
  | nil => rfl
  | cons group groups ih =>
    rw [List.map_cons, List.filter_cons]
    split
    · simp [ih]
    · rename_i empty
      have blank : textOf (trimBoth .whitespace group) = "" := by simpa using empty
      rw [ih, List.map_cons, blank]
      simp [ink]

/-- What can be seen of a group is what the tokens between its ends show. -/
theorem ink_trimBoth (view : Replacement → Token) (group : List Replacement) :
    ink (textOf (trimBoth .whitespace (group.map view))) =
      ((trimmed (Token.isKind .whitespace ∘ view) group).map fun change =>
        ink (view change).text).sum := by
  -- Trimming the tokens is trimming the changes by what their tokens are.
  have trims : trimBoth .whitespace (group.map view) =
      (trimmed (Token.isKind .whitespace ∘ view) group).map view := by
    rw [← trimmed_map, ← accepts_whitespace]
    rfl
  rw [trims, ink_textOf, List.map_map]
  rfl

/-- Afterwards no more can be seen of a group, and less if a token of it has changed. -/
theorem ink_group (group : List Replacement) :
    ink (textOf (trimBoth .whitespace (group.map Replacement.after))) ≤
        ink (textOf (trimBoth .whitespace (group.map Replacement.before))) ∧
      ((∃ change ∈ group, change.after ≠ change.before) →
        ink (textOf (trimBoth .whitespace (group.map Replacement.after))) <
          ink (textOf (trimBoth .whitespace (group.map Replacement.before)))) := by
  -- What is white space before is white space after, so more is trimmed after than before.
  have stricter : ∀ change, (Token.isKind .whitespace ∘ Replacement.before) change = true →
      (Token.isKind .whitespace ∘ Replacement.after) change = true := by
    intro change white
    rw [Function.comp_apply, change.after_of_whitespace white]
    exact white
  have shorter := trimmed_sublist_trimmed stricter group
  rw [ink_trimBoth, ink_trimBoth]
  have fewer := (shorter.map fun change : Replacement => ink change.after.text).sum_le_sum
    fun _ _ => Nat.zero_le _
  constructor
  · -- No change gains ink.
    exact fewer.trans (List.sum_le_sum fun change _ => change.ink_after_le)
  · -- A token that changes was no white space before, so it was not trimmed, and it loses ink.
    rintro ⟨change, listed, changed⟩
    refine fewer.trans_lt (List.sum_lt_sum _ _ (fun change _ => change.ink_after_le)
      ⟨change, mem_trimmed listed ?_, change.ink_after_lt changed⟩)
    cases white : change.before.isKind .whitespace with
    | false => exact white
    | true => exact absurd (change.after_of_whitespace white) changed

/-- The commas are the same afterwards, so the groups are cut at the same places. -/
theorem splitTokens_replaced (changes : List Replacement) {view : Replacement → Token}
    (cuts : ∀ change, (view change).isSymbol ',' = change.before.isSymbol ',') :
    splitTokens (.symbol ',') (changes.map view) none =
      (splitAtMost (Token.isSymbol ',' ∘ Replacement.before) none changes).map (List.map view) := by
  -- No comment is a comma, so both lists are cut at the same places.
  have accepts : (Pattern.symbol ',').accepts ∘ view = Token.isSymbol ',' ∘ Replacement.before := by
    funext change
    rw [Function.comp_apply, Pattern.accepts, cuts, Function.comp_apply]
  rw [splitTokens, splitAtMost_map, accepts]

/-- If a token has changed, less can be seen of the listed names. -/
theorem sum_ink_listedNames_lt {changes : List Replacement} {change : Replacement}
    (listed : change ∈ changes) (changed : change.after ≠ change.before) :
    ((listedNames (changes.map Replacement.after)).map ink).sum <
      ((listedNames (changes.map Replacement.before)).map ink).sum := by
  rw [sum_ink_listedNames, sum_ink_listedNames,
    splitTokens_replaced changes fun change => change.test_after (.symbol ','),
    splitTokens_replaced changes fun change => rfl, List.map_map, List.map_map]
  have plain : change.before.isSymbol ',' = false := by
    rcases change.same_or_trivia with same | ⟨trivia, -⟩
    · exact absurd same changed
    · exact (Structural.symbol ',').trivia _ trivia
  -- A comment is no comma, so it stands in one of the groups.
  obtain ⟨group, known, holds⟩ : ∃ group ∈
      splitAtMost (Token.isSymbol ',' ∘ Replacement.before) none changes, change ∈ group := by
    rw [← List.mem_flatten, flatten_splitAtMost, List.mem_filter]
    exact ⟨listed, by simp [plain]⟩
  refine List.sum_lt_sum _ _ (fun other _ => ?_) ⟨group, known, ?_⟩
  · rw [Function.comp_apply, Function.comp_apply]
    exact (ink_group other).1
  · rw [Function.comp_apply, Function.comp_apply]
    exact (ink_group group).2 ⟨change, holds, changed⟩

/-- The listed names are the same afterwards exactly when no token has changed. -/
theorem listedNames_replaced_iff (changes : List Replacement) :
    listedNames (changes.map Replacement.after) = listedNames (changes.map Replacement.before) ↔
      changes.map Replacement.after = changes.map Replacement.before := by
  -- A token that changes loses ink, and then some name does.
  refine ⟨fun same => ?_, fun same => by rw [same]⟩
  refine List.map_congr_left fun change listed => ?_
  by_contra changed
  have less := sum_ink_listedNames_lt listed changed
  rw [same] at less
  exact Nat.lt_irrefl _ less

end Ink

/-- A trimmed span lists the names of its whole window. -/
theorem Span.trims.listedNames_eq {tokens : List Token} {width : Nat} {span : Span}
    (trims : span.trims tokens width) :
    listedNames (span.tokens tokens) = listedNames ((tokens.drop span.first).take width) := by
  -- The trimmed window begins the window, and the white space cut off is in no name.
  have front : trimRight .whitespace ((tokens.drop span.first).take width) <+:
      (tokens.drop span.first).take width := List.rdropWhile_prefix _ _
  rw [trims.tokens_eq, ← List.prefix_iff_eq_take.mp front, listedNames_trimRight]

/-- Behind a trimmed span its window holds only white space, which stays. -/
theorem Span.trims.tokens_replaced_iff {changes : List Replacement} {width : Nat} {span : Span}
    (trims : span.trims (changes.map Replacement.before) width) :
    span.tokens (changes.map Replacement.after) = span.tokens (changes.map Replacement.before) ↔
      ((changes.drop span.first).take width).map Replacement.after =
        ((changes.drop span.first).take width).map Replacement.before := by
  rw [trims.tokens_eq, trims.tokens_eq]
  simp only [← List.map_drop, ← List.map_take]
  -- Behind the trimmed part the window held white space only, which no change touches.
  generalize (changes.drop span.first).take width = window
  generalize count : (trimRight .whitespace (window.map Replacement.before)).length = length
  refine ⟨fun same => ?_, fun same => by rw [List.map_take, same, ← List.map_take]⟩
  have behind : (window.drop length).map Replacement.before =
      (window.map Replacement.before).rtakeWhile Pattern.whitespace.accepts := by
    have parts : trimRight .whitespace (window.map Replacement.before) ++
        (window.map Replacement.before).rtakeWhile Pattern.whitespace.accepts =
          window.map Replacement.before := List.rdropWhile_append_rtakeWhile
    have cut := congrArg (List.drop length) parts
    rw [List.drop_left' count] at cut
    rw [List.map_drop, cut]
  have stays : (window.drop length).map Replacement.after =
      (window.drop length).map Replacement.before := by
    refine List.map_congr_left fun change listed => change.after_of_whitespace ?_
    have white : change.before ∈ (window.drop length).map Replacement.before :=
      List.mem_map_of_mem listed
    rw [behind] at white
    rw [← accepts_whitespace]
    exact List.mem_rtakeWhile_imp white
  rw [← List.take_append_drop length window, List.map_append, List.map_append, same, stays]

/-- The short names of the first list of interfaces are those that its window lists. -/
theorem interfaceNames_of_trims {tokens : List Token} {width : Nat} {span : Span}
    {spans : List Span} (found : interfaceSpans tokens = span :: spans)
    (trims : span.trims tokens width) :
    interfaceNames false tokens = listedNames ((tokens.drop span.first).take width) := by
  rw [← trims.listedNames_eq, interfaceNames, found]
  rfl

/--
White space in the place of comments leaves the interfaces as they are exactly when no comment of
the first list of interfaces is replaced.

A list goes from its first name to the last token before the brace that is no white space, so a
comment behind the last name belongs to it.
-/
theorem interfaceNames_replaced_iff (changes : List Replacement) :
    (∀ qualified, interfaceNames qualified (changes.map Replacement.after) =
        interfaceNames qualified (changes.map Replacement.before)) ↔
      ∀ span, (interfaceSpans (changes.map Replacement.before)).head? = some span →
        span.tokens (changes.map Replacement.after) =
          span.tokens (changes.map Replacement.before) := by
  have length : (changes.map Replacement.before).length =
      (changes.map Replacement.after).length := by
    rw [List.length_map, List.length_map]
  have alike := forall₂_sweepAt length (fun index inside =>
    sameVerdict_recognizeInterfaces changes (by simpa using inside)) 0
  rw [← sweep_eq_sweepAt, ← sweep_eq_sweepAt, ← interfaceSpans, ← interfaceSpans] at alike
  cases found : interfaceSpans (changes.map Replacement.before) with
  | nil =>
    rw [found, List.forall₂_nil_left_iff] at alike
    simp [interfaceNames, found, alike]
  | cons span spans =>
    rw [found] at alike
    obtain ⟨other, others, ⟨start, width, trims, again⟩, -, swept⟩ :=
      List.forall₂_cons_left_iff.mp alike
    -- Both spans are cut from one window, each without the white space at its end.
    have names := interfaceNames_of_trims found trims
    have renamed := interfaceNames_of_trims swept again
    rw [start] at renamed
    simp only [← List.map_drop, ← List.map_take] at names renamed
    have listed := listedNames_replaced_iff ((changes.drop span.first).take width)
    simp only [List.head?_cons, Option.some.injEq, forall_eq', trims.tokens_replaced_iff, ← listed]
    refine ⟨fun same => ?_, fun same qualified => ?_⟩
    · rw [← names, ← renamed, same false]
    · cases qualified with
      | false => rw [names, renamed, same]
      | true => rw [interfaceNames_qualified, interfaceNames_qualified, nameScope_replaced, names,
          renamed, same]

/--
A comment behind a name is reported with it, and white space in its place is not.

The full names keep the comments too, and an import that ends in the bare name is not recognized.
-/
theorem comments_reported_with_interfaces :
    let tokens : List Token :=
      [.typed .openTag "<?php " 1, .typed (.word .useWord) "use" 1, .typed .whitespace " " 1,
       .typed .identifier "L" 1, .typed .nameSeparator "\\" 1, .typed .identifier "B" 1,
       .symbol ';', .typed .whitespace " " 1, .typed (.word .classWord) "class" 1,
       .typed .whitespace " " 1, .typed .identifier "A" 1, .typed .whitespace " " 1,
       .typed (.word .implementsWord) "implements" 1, .typed .whitespace " " 1,
       .typed .identifier "B" 1, .typed .whitespace " " 1, .typed .comment "/* b */" 1,
       .symbol ',', .typed .whitespace " " 1, .typed .identifier "C" 1, .typed .whitespace " " 1,
       .typed .docComment "/** c */" 1, .typed .whitespace " " 1, .symbol '\x7b', .symbol '\x7d']
    let others := (tokens.set 16 (.typed .whitespace " " 1)).set 21 (.typed .whitespace " " 1)
    interfaceNames false tokens = ["B /* b */", "C /** c */"] ∧
      interfaceNames false others = ["B", "C"] ∧
      interfaceNames true tokens = ["B /* b */", "C /** c */"] ∧
      interfaceNames true others = ["L\\B", "C"] := by
  intro tokens others
  -- The written names are read off the tokens; qualifying them runs by the import of `L\B`.
  have names : interfaceNames false tokens = ["B /* b */", "C /** c */"] := by
    unfold tokens
    cbv
  have renamed : interfaceNames false others = ["B", "C"] := by
    unfold others tokens
    cbv
  have scope : ∀ list, writtenImports list = ["L\\B"] → namespaceName? list = none →
      NameScope.of list = ⟨["L\\B"], none⟩ := by
    intro list imported unnamed
    simp [NameScope.of, imports, imported, unnamed]
  refine ⟨names, renamed, ?_, ?_⟩
  · have known : NameScope.of tokens = ⟨["L\\B"], none⟩ := by
      apply scope <;> unfold tokens <;> cbv
    rw [interfaceNames_qualified, names, known]
    decide
  · have known : NameScope.of others = ⟨["L\\B"], none⟩ := by
      apply scope <;> unfold others tokens <;> cbv
    rw [interfaceNames_qualified, renamed, known]
    decide

end PhpOutline
