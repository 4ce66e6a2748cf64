import PhpOutline.Proofs.Reach
import PhpOutline.Proofs.Trivia.Squeezed

/-!
Which parents of classes are reported, and how much of their names.

No keyword in front of a parent is ever passed over, so what follows it decides alone.
The word for enumerations may name a class, but no parent is looked for behind it and no name of a
parent goes on over it.
-/

namespace PhpOutline

/-- The tokens from one index to another pass a test, and the one behind them does not. -/
structure IsRun (test : Token → Bool) (tokens : List Token) (first last : Nat) : Prop where
  ordered : first ≤ last
  passes : ∀ index, first ≤ index → index ≤ last → tokens[index]?.any test = true
  ends : tokens[last + 1]?.any test = false

/-- A run is one behind some tokens exactly when it is one of the whole list. -/
theorem isRun_drop {test : Token → Bool} {tokens : List Token} {count first last : Nat} :
    IsRun test (tokens.drop count) first last ↔
      IsRun test tokens (count + first) (count + last) := by
  -- Places in the cut list are those of the whole one, moved by what is dropped.
  constructor
  · rintro ⟨ordered, passes, ends⟩
    refine ⟨by omega, fun index start stop => ?_, by rwa [List.getElem?_drop] at ends⟩
    have inside := passes (index - count) (by omega) (by omega)
    rwa [List.getElem?_drop, Nat.add_sub_cancel' (by omega)] at inside
  · rintro ⟨ordered, passes, ends⟩
    refine ⟨by omega, fun index start stop => ?_, by rwa [List.getElem?_drop]⟩
    rw [List.getElem?_drop]
    exact passes (count + index) (by omega) (by omega)

/-- A run from the front is as long as what the test takes off it. -/
theorem isRun_zero_iff {test : Token → Bool} {tokens : List Token} {last : Nat} :
    IsRun test tokens 0 last ↔ (tokens.takeWhile test).length = last + 1 := by
  -- What is taken off ends at the first token that fails, or with the list.
  have length : (tokens.takeWhile test).length = tokens.findIdx fun token => !test token := by
    rw [List.takeWhile_eq_take_findIdx_not, List.length_take]
    exact Nat.min_eq_left List.findIdx_le_length
  have taken : ∀ index < tokens.findIdx fun token => !test token,
      tokens[index]?.any test = true := by
    intro index earlier
    have inside := Nat.lt_of_lt_of_le earlier List.findIdx_le_length
    simpa [List.getElem?_eq_getElem inside] using List.not_of_lt_findIdx earlier
  have stopped : tokens[tokens.findIdx fun token => !test token]?.any test = false := by
    by_cases inside : (tokens.findIdx fun token => !test token) < tokens.length
    · simpa [List.getElem?_eq_getElem inside] using List.findIdx_getElem (w := inside)
    · simp [List.getElem?_eq_none (Nat.le_of_not_lt inside)]
  rw [length]
  generalize (tokens.findIdx fun token => !test token) = count at taken stopped
  constructor
  · intro run
    rcases Nat.lt_trichotomy count (last + 1) with short | same | long
    · have passed := run.passes count (Nat.zero_le count) (by omega)
      simp [stopped] at passed
    · exact same
    · have ended := run.ends
      simp [taken (last + 1) long] at ended
  · rintro rfl
    exact ⟨Nat.zero_le last, fun index _ stop => taken index (by omega), stopped⟩

/-- A run is as long as what the test takes off the list from its start on. -/
theorem isRun_iff {test : Token → Bool} {tokens : List Token} {first last : Nat} :
    IsRun test tokens first last ↔
      first ≤ last ∧ ((tokens.drop first).takeWhile test).length = last - first + 1 := by
  -- Dropping what stands before the run makes it start at zero.
  constructor
  · intro run
    refine ⟨run.ordered, isRun_zero_iff.mp (isRun_drop.mpr ?_)⟩
    rwa [Nat.add_zero, Nat.add_sub_cancel' run.ordered]
  · rintro ⟨ordered, length⟩
    have run := isRun_drop.mp (isRun_zero_iff.mpr length)
    rwa [Nat.add_zero, Nat.add_sub_cancel' ordered] at run

instance (test : Token → Bool) (tokens : List Token) (first last : Nat) :
    Decidable (IsRun test tokens first last) :=
  decidable_of_iff _ isRun_iff.symm

/-- The qualified name that comes first is the run of plain parts at the first significant token. -/
theorem qualifiedNameOffsets_eq_some_iff {after : List Token} {start stop : Nat} :
    qualifiedNameOffsets after = some (start, stop) ↔
      significantFrom after 0 = some start ∧ IsRun Token.isPlainNamePart after start stop := by
  simp only [qualifiedNameOffsets, Option.bind_eq_bind, Option.bind_eq_some_iff]
  constructor
  · -- A name with a first part is measured, and its last part is the end of the run.
    rintro ⟨first, located, measured⟩
    split at measured
    · rename_i positive
      simp only [Option.some.injEq, Prod.mk.injEq] at measured
      obtain ⟨rfl, rfl⟩ := measured
      exact ⟨located, isRun_iff.mpr ⟨by omega, by omega⟩⟩
    · simp at measured
  · -- A run holds at least one part, so the measure does not fail.
    rintro ⟨located, run⟩
    obtain ⟨ordered, length⟩ := isRun_iff.mp run
    have ended : start + (stop - start + 1) - 1 = stop := by omega
    exact ⟨start, located, by simp only [length, Nat.succ_pos, if_true, ended]⟩

/-- Whether the keyword at an index is that of a parent. -/
def opensParent (tokens : List Token) (index : Nat) : Bool :=
  -- The nearest significant token decides whether a class has just been named.
  tokens[index]?.any (Token.isWord .extendsWord) &&
    (significantBehind (tokens.take index).reverse).any Token.precedesParent

/-- The recognizer of parents looks for a name behind a keyword, and passes over all else. -/
theorem recognizeParent_at {tokens : List Token} {index : Nat} (inside : index < tokens.length) :
    recognizeParent (Site.at tokens index) =
      if opensParent tokens index then
        match qualifiedNameOffsets (tokens.drop (index + 1)) with
        | some (start, stop) =>
          .report { first := index + 1 + start, last := index + 1 + stop } (1 + stop)
        | none => .pass 0
      else .pass 0 := by
  -- At a place of the list the token ahead is the one that stands there.
  have present : tokens[index]? = some tokens[index] := List.getElem?_eq_getElem inside
  have ahead : (Site.at tokens index).ahead = tokens[index] :: tokens.drop (index + 1) :=
    List.drop_eq_getElem_cons inside
  rw [recognizeParent, ahead, Site.index_at (Nat.le_of_lt inside)]
  simp only [opensParent, present, Option.any_some]
  rfl

/-- A sweep for parents comes to stand at every keyword of one. -/
theorem sweepReaches_extends {tokens : List Token} {index : Nat} {token : Token}
    (present : tokens[index]? = some token) (keyed : token.isWord .extendsWord = true) :
    SweepReaches recognizeParent tokens 0 index := by
  have inside := (List.getElem?_eq_some_iff.mp present).1
  rcases sweepReaches_or_passed (Nat.zero_le index) inside with
    reached | ⟨place, -, before, covers⟩
  · exact reached
  · exfalso
    have decided := recognizeParent_at (Nat.lt_trans before inside)
    obtain ⟨text, line, rfl⟩ := Token.isWord_iff.mp keyed
    split at decided
    · split at decided
      · -- What a report passes over is trivia in front of a name, and then the name.
        rename_i start stop named
        have reach := covers _ (by rw [decided]; rfl)
        obtain ⟨located, run⟩ := qualifiedNameOffsets_eq_some_iff.mp named
        rw [significantFrom_eq_findFrom] at located
        obtain ⟨-, -, trivial⟩ := findFrom_spec located
        have here : (tokens.drop (place + 1))[index - (place + 1)]? =
            some (.typed (.word .extendsWord) text line) := by
          rwa [List.getElem?_drop, Nat.add_sub_cancel' (by omega)]
        by_cases leading : index - (place + 1) < start
        · have skipped := trivial _ _ (Nat.zero_le _) leading here
          simp [Token.isTrivia, Kind.isComment] at skipped
        · have part := run.passes (index - (place + 1)) (by omega) (by omega)
          simp [here, Token.isPlainNamePart, Token.isKind] at part
      · have reach := covers 0 (by rw [decided]; rfl)
        omega
    · have reach := covers 0 (by rw [decided]; rfl)
      omega

/-- The parents that are reported are the plain names behind the keywords of parents. -/
theorem mem_parentSpans_iff {tokens : List Token} {span : Span} :
    span ∈ parentSpans tokens ↔
      ∃ index, opensParent tokens index = true ∧
        significantFrom tokens (index + 1) = some span.first ∧
        IsRun Token.isPlainNamePart tokens span.first span.last ∧ span.mark? = none := by
  rw [parentSpans, mem_sweep_iff]
  constructor
  · -- A report stands at a token that opens a parent and spans the run behind it.
    rintro ⟨index, last, -, inside, reported⟩
    rw [recognizeParent_at inside] at reported
    split at reported
    · rename_i opens
      split at reported
      · rename_i start stop named
        obtain ⟨rfl, -⟩ := Verdict.report.inj reported
        obtain ⟨located, run⟩ := qualifiedNameOffsets_eq_some_iff.mp named
        refine ⟨index, opens, ?_, isRun_drop.mp run, rfl⟩
        rw [significantFrom_eq_findFrom] at located ⊢
        rw [← Nat.add_zero (index + 1), findFrom_drop, located]
        rfl
      · simp at reported
    · simp at reported
  · -- The sweep reaches every `extends`, as no name that it skips holds one.
    rintro ⟨index, opens, located, run, unmarked⟩
    obtain ⟨first, last, mark?⟩ := span
    obtain rfl : mark? = none := unmarked
    have keyed := opens
    simp only [opensParent, Bool.and_eq_true, Option.any_eq_true] at keyed
    obtain ⟨⟨token, present, keyed⟩, -⟩ := keyed
    have inside := (List.getElem?_eq_some_iff.mp present).1
    rw [significantFrom_eq_findFrom, ← Nat.add_zero (index + 1), findFrom_drop] at located
    obtain ⟨start, begins, rfl⟩ := Option.map_eq_some_iff.mp located
    obtain ⟨length, rfl⟩ : ∃ length, last = index + 1 + start + length :=
      Nat.exists_eq_add_of_le run.ordered
    rw [Nat.add_assoc (index + 1)] at run ⊢
    have named : qualifiedNameOffsets (tokens.drop (index + 1)) = some (start, start + length) :=
      qualifiedNameOffsets_eq_some_iff.mpr ⟨begins, isRun_drop.mpr run⟩
    refine ⟨index, 1 + (start + length), sweepReaches_extends present keyed, inside, ?_⟩
    rw [recognizeParent_at inside, if_pos opens, named]

/-- Whether a token may stand in the name of a class, qualified or not. -/
def Token.partsClassName (token : Token) : Bool :=
  -- A backslash parts the tokens that may name a class.
  token.namesClass || token.isKind .nameSeparator

/-- The plain parts of a name are all but the word for enumerations. -/
theorem Token.isPlainNamePart_iff {token : Token} :
    token.isPlainNamePart = true ↔
      token.partsClassName = true ∧ token.isWord .enumWord = false := by
  -- Only at the word `enum` do the two tests differ.
  cases token with
  | symbol char => simp [isPlainNamePart, partsClassName, namesClass, isWord, isKind]
  | typed kind text line =>
    cases kind <;> simp [isPlainNamePart, partsClassName, namesClass, isWord, isKind]

/-- A declared name with a parent written behind it, by the indices of their tokens. -/
structure WrittenParent (tokens : List Token) (keyword name inherits first last : Nat) : Prop where
  declares : declaresClass (Site.at tokens keyword) = true
  named : (classNameOffset (tokens.drop (keyword + 1))).map (keyword + 1 + ·) = some name
  /-- Trivia aside, the keyword of the parent follows the name. -/
  follows : significantFrom tokens (name + 1) = some inherits
  keyed : tokens[inherits]?.any (Token.isWord .extendsWord) = true
  /-- Trivia aside, the name of the parent follows its keyword. -/
  starts : significantFrom tokens (inherits + 1) = some first
  run : IsRun Token.partsClassName tokens first last

instance (tokens : List Token) (keyword name inherits first last : Nat) :
    Decidable (WrittenParent tokens keyword name inherits first last) :=
  decidable_of_iff
    (declaresClass (Site.at tokens keyword) = true ∧
      (classNameOffset (tokens.drop (keyword + 1))).map (keyword + 1 + ·) = some name ∧
      significantFrom tokens (name + 1) = some inherits ∧
      tokens[inherits]?.any (Token.isWord .extendsWord) = true ∧
      significantFrom tokens (inherits + 1) = some first ∧
      IsRun Token.partsClassName tokens first last)
    ⟨fun ⟨declares, named, follows, keyed, starts, run⟩ =>
      ⟨declares, named, follows, keyed, starts, run⟩,
    fun written => ⟨written.declares, written.named, written.follows, written.keyed,
      written.starts, written.run⟩⟩

/-- A significant token is the nearest one behind the next significant token. -/
theorem significantBehind_of_significantFrom {tokens : List Token} {before index : Nat}
    {token : Token} (present : tokens[before]? = some token) (significant : token.isTrivia = false)
    (next : significantFrom tokens (before + 1) = some index) :
    significantBehind (tokens.take index).reverse = some token := by
  rw [significantFrom_eq_findFrom] at next
  obtain ⟨later, -, trivial⟩ := findFrom_spec next
  have bounded := Nat.le_of_lt (findFrom_lt next)
  -- Behind the index the tokens are listed backwards, so the trivia comes first.
  have behind : ∀ offset < index,
      (tokens.take index).reverse[offset]? = tokens[index - 1 - offset]? :=
    fun offset near => Site.getElem?_behind_at bounded near
  have here := behind (index - 1 - before) (by omega)
  rw [show index - 1 - (index - 1 - before) = before by omega, present] at here
  obtain ⟨inside, value⟩ := List.getElem?_eq_some_iff.mp here
  refine List.find?_eq_some_iff_getElem.mpr ⟨by simp [significant], _, inside, value, ?_⟩
  intro offset nearer
  have skipped := behind offset (by omega)
  rw [List.getElem?_eq_getElem (by omega)] at skipped
  simpa using trivial _ _ (by omega) (by omega) skipped.symm

/-- The name in front of a parent is a token that may name a class. -/
theorem WrittenParent.exists_name {tokens : List Token} {keyword name inherits first last : Nat}
    (written : WrittenParent tokens keyword name inherits first last) :
    ∃ token, tokens[name]? = some token ∧ token.namesClass = true := by
  -- The offset of the name was found by a search for a token that names a class.
  obtain ⟨offset, located, rfl⟩ := Option.map_eq_some_iff.mp written.named
  obtain ⟨⟨token, present, names⟩, -⟩ := nameOffset_spec located
  rw [List.getElem?_drop] at present
  exact ⟨token, present, names⟩

/-- The keyword of a written parent opens one exactly when the name in front is an identifier. -/
theorem WrittenParent.opensParent_eq {tokens : List Token} {keyword name inherits first last : Nat}
    (written : WrittenParent tokens keyword name inherits first last) :
    opensParent tokens inherits = tokens[name]?.any (Token.isKind .identifier) := by
  -- A name is no trivia, so it is the last significant token before the keyword.
  obtain ⟨token, present, names⟩ := written.exists_name
  have significant : token.isTrivia = false ∧ token.isWord .classWord = false := by
    cases token with
    | symbol char => simp [Token.namesClass, Token.isWord, Token.isKind] at names
    | typed kind text line =>
      cases kind <;> simp_all [Token.namesClass, Token.isWord, Token.isKind, Token.isTrivia,
        Kind.isComment]
  -- Behind a name only an identifier lets the keyword open a parent.
  rw [opensParent, written.keyed, Bool.true_and,
    significantBehind_of_significantFrom present significant.1 written.follows, present]
  simp [Token.precedesParent, significant.2]

/-- Only the keyword right in front of a written parent has a name that starts in it. -/
theorem WrittenParent.eq_inherits {tokens : List Token} {keyword name inherits first last : Nat}
    (written : WrittenParent tokens keyword name inherits first last) {index start : Nat}
    (keyed : tokens[index]?.any (Token.isWord .extendsWord) = true)
    (starts : significantFrom tokens (index + 1) = some start) (begun : first ≤ start)
    (within : start ≤ last) : index = inherits := by
  obtain ⟨token, present, keyed⟩ := (Option.any_eq_true _ _).mp keyed
  obtain ⟨own, standing, opens⟩ := (Option.any_eq_true _ _).mp written.keyed
  obtain ⟨text, line, rfl⟩ := Token.isWord_iff.mp keyed
  obtain ⟨text, line, rfl⟩ := Token.isWord_iff.mp opens
  have next := written.starts
  rw [significantFrom_eq_findFrom] at starts next
  obtain ⟨after, -, trivial⟩ := findFrom_spec starts
  obtain ⟨behind, -, between⟩ := findFrom_spec next
  rcases Nat.lt_trichotomy index inherits with earlier | same | later
  · -- The search from an earlier keyword ends at this one at the latest.
    have skipped := trivial inherits _ (by omega) (by omega) standing
    simp [Token.isTrivia, Kind.isComment] at skipped
  · exact same
  · -- A later keyword would stand in the trivia or in the name.
    by_cases leading : index < first
    · have skipped := between index _ (by omega) leading present
      simp [Token.isTrivia, Kind.isComment] at skipped
    · have part := written.run.passes index (by omega) (by omega)
      simp [present, Token.partsClassName, Token.namesClass, Token.isWord, Token.isKind] at part

/-- Of a written parent only the plain front part is reported, and only behind an identifier. -/
theorem WrittenParent.mem_parentSpans_iff {tokens : List Token}
    {keyword name inherits first last : Nat}
    (written : WrittenParent tokens keyword name inherits first last) (span : Span) :
    (span ∈ parentSpans tokens ∧ first ≤ span.first ∧ span.first ≤ last) ↔
      tokens[name]?.any (Token.isKind .identifier) = true ∧
        ∃ stop, IsRun Token.isPlainNamePart tokens first stop ∧ span = { first, last := stop } := by
  constructor
  · -- A span that begins within the name was opened by this keyword, and so begins with the name.
    rintro ⟨listed, begun, within⟩
    obtain ⟨index, opens, located, run, unmarked⟩ := PhpOutline.mem_parentSpans_iff.mp listed
    obtain ⟨start, stop, mark?⟩ := span
    obtain rfl : mark? = none := unmarked
    have keyed := opens
    rw [opensParent, Bool.and_eq_true] at keyed
    obtain rfl := written.eq_inherits keyed.1 located begun within
    obtain rfl : first = start := Option.some.inj (written.starts.symm.trans located)
    rw [written.opensParent_eq] at opens
    exact ⟨opens, stop, run, rfl⟩
  · -- The run behind the keyword is reported whole.
    rintro ⟨named, stop, run, rfl⟩
    refine ⟨?_, Nat.le_refl first, written.run.ordered⟩
    exact PhpOutline.mem_parentSpans_iff.mpr
      ⟨inherits, written.opensParent_eq.trans named, written.starts, run, rfl⟩

/-- A written name is plain to its end exactly when no word for enumerations stands in it. -/
theorem isRun_plain_iff {tokens : List Token} {first last : Nat}
    (run : IsRun Token.partsClassName tokens first last) :
    IsRun Token.isPlainNamePart tokens first last ↔
      ∀ index, first ≤ index → index ≤ last →
        tokens[index]?.any (Token.isWord .enumWord) = false := by
  constructor
  · intro plain index start stop
    obtain ⟨token, present, part⟩ := (Option.any_eq_true _ _).mp (plain.passes index start stop)
    simpa [present] using (Token.isPlainNamePart_iff.mp part).2
  · intro clear
    refine ⟨run.ordered, fun index start stop => ?_, ?_⟩
    · obtain ⟨token, present, part⟩ := (Option.any_eq_true _ _).mp (run.passes index start stop)
      have apart := clear index start stop
      rw [present, Option.any_some] at apart ⊢
      exact Token.isPlainNamePart_iff.mpr ⟨part, apart⟩
    · -- What ends the written name ends its plain part too.
      by_contra onward
      obtain ⟨token, present, plain⟩ :=
        (Option.any_eq_true _ _).mp (Bool.eq_true_of_not_eq_false onward)
      have ended := run.ends
      simp [present, (Token.isPlainNamePart_iff.mp plain).1] at ended

/--
A written parent is reported in full exactly when no word for enumerations is in the way.

That word may neither be the name of the class nor stand in the name of the parent.
Behind an identifier what is reported is the part of the name in front of the first such word, if
there is any, and behind a class of that name it is nothing.
-/
theorem parent_reported_iff {tokens : List Token} {keyword name inherits first last : Nat}
    (written : WrittenParent tokens keyword name inherits first last) :
    ({ first, last } ∈ parentSpans tokens ↔
      tokens[name]?.any (Token.isKind .identifier) = true ∧
        ∀ index, first ≤ index → index ≤ last →
          tokens[index]?.any (Token.isWord .enumWord) = false) ∧
    ∀ span : Span, (span ∈ parentSpans tokens ∧ first ≤ span.first ∧ span.first ≤ last) ↔
      tokens[name]?.any (Token.isKind .identifier) = true ∧
        ∃ stop, IsRun Token.isPlainNamePart tokens first stop ∧
          span = { first, last := stop } := by
  -- The whole name is reported if the run reaches its end, and no word `enum` cuts it there.
  refine ⟨?_, written.mem_parentSpans_iff⟩
  rw [← isRun_plain_iff written.run]
  constructor
  · intro listed
    obtain ⟨named, stop, run, same⟩ := (written.mem_parentSpans_iff { first, last }).mp
      ⟨listed, Nat.le_refl first, written.run.ordered⟩
    obtain rfl : last = stop := congrArg Span.last same
    exact ⟨named, run⟩
  · rintro ⟨named, run⟩
    exact ((written.mem_parentSpans_iff { first, last }).mpr ⟨named, last, run, rfl⟩).1

/--
A qualified parent behind a comment is reported in full.

A second parent that has the word for enumerations inside its name is reported up to that word.
-/
theorem parent_reported_iff_qualified :
    let tokens : List Token :=
      [.typed (.word .classWord) "class" 1, .typed .identifier "A" 1, .typed .comment "/* */" 1,
       .typed (.word .extendsWord) "extends" 1, .typed .whitespace " " 1,
       .typed .nameSeparator "\\" 1, .typed .identifier "Lib" 1, .typed .nameSeparator "\\" 1,
       .typed .identifier "D" 1, .symbol '\x7b', .symbol '\x7d',
       .typed (.word .interfaceWord) "interface" 1, .typed .identifier "I" 1,
       .typed (.word .extendsWord) "extends" 1, .typed .identifier "Lib" 1,
       .typed .nameSeparator "\\" 1, .typed (.word .enumWord) "Enum" 1,
       .typed .nameSeparator "\\" 1, .typed .identifier "J" 1, .symbol ',']
    WrittenParent tokens 0 1 3 5 8 ∧ { first := 5, last := 8 } ∈ parentSpans tokens ∧
      WrittenParent tokens 11 12 13 14 18 ∧ { first := 14, last := 18 } ∉ parentSpans tokens ∧
      { first := 14, last := 15 } ∈ parentSpans tokens := by
  intro tokens
  have plain : WrittenParent tokens 0 1 3 5 8 := by decide
  have mixed : WrittenParent tokens 11 12 13 14 18 := by decide
  -- The first name is reported whole, the second up to the soft keyword in it.
  refine ⟨plain, (parent_reported_iff plain).1.mpr ⟨rfl, by decide⟩, mixed, ?_, ?_⟩
  · intro listed
    have clear := ((parent_reported_iff mixed).1.mp listed).2 16 (by decide) (by decide)
    simp [tokens, Token.isWord, Token.isKind] at clear
  · exact (((parent_reported_iff mixed).2 _).mpr ⟨rfl, 15, by decide, rfl⟩).1

/--
A parent is cut in front of the word for enumerations, and a class of that name loses its parent.
-/
theorem parent_lost_at_soft_keyword :
    let tokens : List Token :=
      [.typed .openTag "<?php " 1, .typed (.word .classWord) "class" 1, .typed .whitespace " " 1,
       .typed .identifier "A" 1, .typed .whitespace " " 1, .typed (.word .extendsWord) "extends" 1,
       .typed .whitespace " " 1, .typed .identifier "Lib" 1, .typed .nameSeparator "\\" 1,
       .typed (.word .enumWord) "Enum" 1, .typed .whitespace " " 1, .symbol '\x7b', .symbol '\x7d',
       .typed .whitespace " " 1, .typed (.word .classWord) "class" 1, .typed .whitespace " " 1,
       .typed (.word .enumWord) "Enum" 1, .typed .whitespace " " 1,
       .typed (.word .extendsWord) "extends" 1, .typed .whitespace " " 1, .typed .identifier "B" 1,
       .typed .whitespace " " 1, .symbol '\x7b', .symbol '\x7d']
    WrittenParent tokens 1 3 5 7 9 ∧ WrittenParent tokens 14 16 18 20 20 ∧
      parentSpans tokens = [{ first := 7, last := 8 }] := by
  intro tokens
  -- One name is cut at the soft keyword, and behind a class of that name none is reported.
  refine ⟨by decide, by decide, ?_⟩
  unfold tokens
  cbv

end PhpOutline
