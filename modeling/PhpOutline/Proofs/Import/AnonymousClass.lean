import PhpOutline.Proofs.Cursor
import PhpOutline.Proofs.Import.Reported
import PhpOutline.Proofs.Trivia.Spans

/-!
Traits of anonymous classes among the imports.

Only the bodies of named classes are leapt over, so a trait that an anonymous class uses is taken
for an import, unless the anonymous class itself stands in the body of a named one.
-/

namespace PhpOutline

/-- The offset, behind the keyword of an anonymous class, of the brace that opens its body. -/
def anonymousBrace? (after : List Token) : Option Nat := do
  -- Arguments for the constructor may come first, with braces of their own.
  let first ← significantFrom after 0
  if after[first]?.any (Token.isSymbol '(') then
    let close ← closerAt? after first
    findFrom (Token.isSymbol '{') after (close + 1)
  else findFrom (Token.isSymbol '{') after first

/-- A class without a name, from its keyword to the braces around its body. -/
structure AnonymousClass (tokens : List Token) (keyword opening closing : Nat) : Prop where
  keyed : ∃ token, tokens[keyword]? = some token ∧ token.isWord .classWord = true
  /-- The nearest significant token before the keyword creates an object. -/
  created : (significantBehind (tokens.take keyword).reverse).any (Token.isWord .newWord) = true
  opened : (anonymousBrace? (tokens.drop (keyword + 1))).map (keyword + 1 + ·) = some opening
  closed : closerAt? tokens opening = some closing

/-- The body of an anonymous class opens with a brace. -/
theorem AnonymousClass.brace {tokens : List Token} {keyword opening closing : Nat}
    (anonymous : AnonymousClass tokens keyword opening closing) :
    tokens[opening]? = some (.symbol '{') := by
  obtain ⟨offset, located, rfl⟩ := Option.map_eq_some_iff.mp anonymous.opened
  -- With or without arguments, the brace is what the last search finds.
  obtain ⟨start, found⟩ : ∃ start,
      findFrom (Token.isSymbol '{') (tokens.drop (keyword + 1)) start = some offset := by
    simp only [anonymousBrace?, Option.bind_eq_bind] at located
    obtain ⟨first, -, located⟩ := Option.bind_eq_some_iff.mp located
    split at located
    · obtain ⟨close, -, located⟩ := Option.bind_eq_some_iff.mp located
      exact ⟨_, located⟩
    · exact ⟨_, located⟩
  obtain ⟨-, ⟨token, present, opens⟩, -⟩ := findFrom_spec found
  rw [List.getElem?_drop, Token.isSymbol_iff.mp opens] at present
  exact present

/-- A body that holds a brace holds all that the brace opens. -/
theorem Body.contains_nested {tokens : List Token} {body : Body} {opening closing index : Nat}
    (listed : body ∈ classBodies tokens) (held : body.contains opening = true)
    (brace : tokens[opening]? = some (.symbol '{'))
    (closed : closerAt? tokens opening = some closing) (begun : opening ≤ index)
    (within : index ≤ closing) : body.contains index = true := by
  simp only [Body.contains, Bool.and_eq_true, decide_eq_true_eq] at held ⊢
  refine ⟨by omega, Nat.le_trans within ?_⟩
  obtain ⟨_, -, -, stands⟩ := closerAt?_spec closed
  have inside := (List.getElem?_eq_some_iff.mp stands).1
  obtain ⟨span, found, rfl⟩ := List.mem_map.mp listed
  have opened := classBraceSpans_brace found
  simp only at held ⊢
  cases ended : closerAt? tokens span.first with
  | none =>
    -- A body that is never closed reaches to the last token.
    simp only [Option.getD_none]
    omega
  | some close =>
    simp only [ended, Option.getD_some] at held ⊢
    obtain ⟨delimiter, -, -, closes⟩ := closerAt?_spec ended
    have apart : opening ≠ close := by
      rintro rfl
      rw [brace] at closes
      cases delimiter <;> simp [Delimiter.closer] at closes
    rcases Nat.eq_or_lt_of_le held.1 with rfl | after
    · exact Nat.le_of_eq (Option.some.inj (closed.symm.trans ended))
    · have curly : Token.symbol '{' = .symbol Delimiter.curly.opener := rfl
      rw [curly] at opened brace
      obtain ⟨stop, earlier, again⟩ := closerAt?_nested opened ended brace after (by omega)
      obtain rfl := Option.some.inj (closed.symm.trans again)
      exact Nat.le_of_lt earlier

/--
An import is reported in an anonymous class exactly when one of its keywords starts one.

The keyword then lies in no named body of the class and in no import from before the class.
In an anonymous class that stands in the body of a named class no import is reported.
-/
theorem import_in_anonymous_class_iff {tokens : List Token} {keyword opening closing : Nat}
    (anonymous : AnonymousClass tokens keyword opening closing) :
    ((∃ span ∈ importSpans tokens, opening < span.first ∧ span.first < closing) ↔
      ∃ start, opening < start ∧ start < closing ∧ StartsImport tokens start ∧
        ∀ span ∈ importSpans tokens, span.first < opening → span.last < start) ∧
    ∀ body ∈ classBodies tokens, body.contains opening = true →
      ∀ span ∈ importSpans tokens, opening < span.first → closing ≤ span.first := by
  refine ⟨⟨?_, ?_⟩, ?_⟩
  · rintro ⟨span, listed, begun, within⟩
    refine ⟨span.first, begun, within, (startsImport_of_mem listed).1, ?_⟩
    intro other known earlier
    exact lt_first_of_mem_importSpans listed known (Nat.lt_trans earlier begun)
  · rintro ⟨start, begun, within, starts, clear⟩
    by_cases free : ∀ span ∈ importSpans tokens, span.first < start → span.last < start
    · obtain ⟨span, listed, rfl⟩ := mem_importSpans_of_startsImport starts free
      exact ⟨span, listed, begun, within⟩
    · -- The import that holds the keyword starts in the class itself.
      simp only [not_forall, Nat.not_lt] at free
      obtain ⟨span, listed, earlier, reaches⟩ := free
      refine ⟨span, listed, ?_, by omega⟩
      rcases Nat.lt_trichotomy span.first opening with before | same | behind
      · have short := clear span listed before
        omega
      · obtain ⟨-, ⟨token, present, keyed⟩, -⟩ := importSpans_ends listed
        rw [same, anonymous.brace, Option.some.injEq] at present
        subst present
        simp [Token.isWord, Token.isKind] at keyed
      · exact behind
  · intro body known held span listed begun
    by_contra within
    have inner := Body.contains_nested known held anonymous.brace anonymous.closed
      (Nat.le_of_lt begun) (by omega)
    have outer := (startsImport_of_mem listed).1.outside body known
    simp [inner] at outer

/--
Of two anonymous classes, the one in the body of a named class keeps its trait to itself.

The other one has a closure among its arguments, and its trait is among the imports.
-/
theorem import_in_anonymous_class_iff_enclosed :
    let tokens : List Token :=
      [.typed .openTag "<?php " 1, .typed (.word .newWord) "new" 1,
       .typed (.word .classWord) "class" 1, .symbol '(',
       .typed (.word .functionWord) "function" 1, .symbol '(', .symbol ')', .symbol '\x7b',
       .symbol '\x7d', .symbol ')', .symbol '\x7b', .typed (.word .useWord) "use" 1,
       .typed .identifier "T" 1, .symbol ';', .symbol '\x7d', .symbol ';',
       .typed (.word .classWord) "class" 1, .typed .identifier "N" 1, .symbol '\x7b',
       .typed (.word .newWord) "new" 1, .typed .comment "/* */" 1,
       .typed (.word .classWord) "class" 1, .symbol '\x7b', .typed (.word .useWord) "use" 1,
       .typed .identifier "S" 1, .symbol ';', .symbol '\x7d', .symbol ';', .symbol '\x7d']
    AnonymousClass tokens 2 10 14 ∧
      (∃ span ∈ importSpans tokens, 10 < span.first ∧ span.first < 14) ∧
      AnonymousClass tokens 21 22 26 ∧
      ∀ span ∈ importSpans tokens, 22 < span.first → 26 ≤ span.first := by
  intro tokens
  -- Neither `new class` is headed as a class, so the one body is that of the named class.
  have outer : AnonymousClass tokens 2 10 14 := ⟨⟨_, rfl, rfl⟩, rfl, by decide, by decide⟩
  have inner : AnonymousClass tokens 21 22 26 := ⟨⟨_, rfl, rfl⟩, rfl, by decide, by decide⟩
  have bodies : classBodies tokens = [⟨18, 28⟩] := by
    unfold tokens
    cbv
  have imported : importSpans tokens = [⟨11, 13, none⟩] := by
    unfold tokens
    cbv
  refine ⟨outer, ?_, inner, ?_⟩
  · -- Outside the named class the trait's `use` starts an import.
    refine (import_in_anonymous_class_iff outer).1.mpr ⟨11, by decide, by decide, ?_, ?_⟩
    · exact ⟨⟨_, rfl, rfl⟩, by decide, by rw [bodies]; decide, 13, by decide, rfl⟩
    · rw [imported]
      decide
  · -- The inner body lies in that of the named class, where no import starts.
    exact (import_in_anonymous_class_iff inner).2 ⟨18, 28⟩ (by rw [bodies]; simp) rfl

/-- The trait of an anonymous class is reported as an import. -/
theorem trait_of_anonymous_class_imported :
    let tokens : List Token :=
      [.typed .openTag "<?php " 1, .typed .variableName "$x" 1, .typed .whitespace " " 1,
       .symbol '=', .typed .whitespace " " 1, .typed (.word .newWord) "new" 1,
       .typed .whitespace " " 1, .typed (.word .classWord) "class" 1, .typed .whitespace " " 1,
       .symbol '\x7b', .typed .whitespace " " 1, .typed (.word .useWord) "use" 1,
       .typed .whitespace " " 1, .typed .identifier "T" 1, .symbol ';', .typed .whitespace " " 1,
       .symbol '\x7d', .symbol ';']
    AnonymousClass tokens 7 9 16 ∧ importSpans tokens = [⟨11, 14, none⟩] ∧
      imports false tokens = ["T"] := by
  intro tokens
  -- The search ends at the brace of `new class`, whose body reports the trait.
  refine ⟨⟨⟨_, rfl, rfl⟩, rfl, by decide, by decide⟩, ?_, ?_⟩
  · unfold tokens
    cbv
  · unfold tokens
    cbv

end PhpOutline
