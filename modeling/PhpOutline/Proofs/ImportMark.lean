import Mathlib
import PhpOutline.Proofs.Method
import PhpOutline.Proofs.Sweep

/-!
When the keyword of a method lies inside an import.

Only the word right behind `use` is known to mark what is imported.
A function word further inside an import, with a name behind it, is taken for a declaration.
-/

namespace PhpOutline

/--
Where a recognizer reports, the sweep reports too, or an earlier report passed over the place.

The recognizer may neither halt nor pass over more than one token without a report.
-/
theorem mem_sweepAt_or_covered {recognize : Site → Verdict} {tokens : List Token}
    {start index last : Nat} {span : Span}
    (steady : ∀ place, place < tokens.length → recognize (Site.at tokens place) ≠ .halt ∧
      ∀ further, recognize (Site.at tokens place) = .pass further → further = 0)
    (inside : index < tokens.length)
    (reported : recognize (Site.at tokens index) = .report span last) (begun : start ≤ index) :
    span ∈ sweepAt recognize tokens start ∨
      ∃ place other reach, place < index ∧ index ≤ place + reach ∧
        recognize (Site.at tokens place) = .report other reach ∧
        other ∈ sweepAt recognize tokens start := by
  rcases sweepReaches_or_passed begun inside with
    reached | ⟨place, stands, before, covers⟩
  · exact .inl (mem_sweepAt_iff.mpr ⟨index, last, reached, inside, reported⟩)
  · -- Only a report reaches as far as that.
    have within : place < tokens.length := Nat.lt_trans before inside
    obtain ⟨goesOn, single⟩ := steady place within
    right
    cases decided : recognize (Site.at tokens place) with
    | halt => exact absurd decided goesOn
    | pass further =>
      obtain rfl := single further decided
      have far := covers 0 (by rw [decided]; rfl)
      omega
    | report other reach =>
      refine ⟨place, other, reach, before, covers reach (by rw [decided]; rfl), decided, ?_⟩
      exact mem_sweepAt_iff.mpr ⟨place, reach, stands, within, decided⟩

/-- The recognizer of methods goes on at every token, one at a time where it reports nothing. -/
theorem recognizeMethod_steady {tokens : List Token} {index : Nat}
    (inside : index < tokens.length) :
    recognizeMethod (Site.at tokens index) ≠ .halt ∧
      ∀ further, recognizeMethod (Site.at tokens index) = .pass further → further = 0 := by
  -- A keyword that is not reported is passed alone.
  have ahead : (Site.at tokens index).ahead = tokens[index] :: tokens.drop (index + 1) :=
    List.drop_eq_getElem_cons inside
  simp only [recognizeMethod, ahead]
  split
  · split <;> simp
  · simp [eq_comm]

/--
Whether the word at an index is one for functions that reads as the start of a declaration.

The nearest token before it is not the keyword of an import, and a name comes next.
-/
def readsAsDeclaration (tokens : List Token) (index : Nat) : Bool :=
  -- Trivia is looked through on both sides.
  tokens[index]?.any (Token.isWord .functionWord) && !followsUse (tokens.take index).reverse
    && (functionNameOffset (tokens.drop (index + 1))).isSome

/-- The mark of a method reads as the start of a declaration, and a parenthesis follows it. -/
theorem readsAsDeclaration_of_mark {tokens : List Token} {span : Span} {mark : Nat}
    (listed : span ∈ methodSpans tokens) (marked : span.mark? = some mark) :
    readsAsDeclaration tokens mark = true ∧
      ∃ parenthesis, mark < parenthesis ∧ tokens[parenthesis]? = some (.symbol '(') := by
  obtain ⟨index, keyword, name, stop, placed, -, present, keyed, apart, named, ended⟩ :=
    methodSpans_declaration listed
  obtain rfl : mark = index := Option.some.inj (marked.symm.trans placed)
  refine ⟨by simp [readsAsDeclaration, present, keyed, apart, named], ?_⟩
  -- The declaration ends, so a parenthesis opens somewhere behind the keyword.
  obtain ⟨parameters, opened, -⟩ := declarationEnd_spec ended
  rw [findIdx?_eq_findFrom] at opened
  obtain ⟨-, ⟨token, standing, opens⟩, -⟩ := findFrom_spec opened
  rw [List.getElem?_drop, Token.isSymbol_iff.mp opens] at standing
  exact ⟨_, by omega, standing⟩

/-- A declaration ends somewhere as soon as a parenthesis follows its keyword. -/
theorem exists_declarationEnd {after : List Token} (opens : .symbol '(' ∈ after) :
    ∃ stop, declarationEnd after = some stop := by
  -- Without a closed part the declaration still ends, with the last token.
  obtain ⟨parameters, opened⟩ :
      ∃ parameters, after.findIdx? (Token.isSymbol '(') = some parameters := by
    rw [← Option.isSome_iff_exists, List.findIdx?_isSome, List.any_eq_true]
    exact ⟨_, opens, rfl⟩
  simp only [declarationEnd, opened, Option.bind_eq_bind, Option.bind_some]
  split
  · exact ⟨_, rfl⟩
  · split <;> exact ⟨_, rfl⟩

/-- What reads as the start of a declaration is reported if a parenthesis follows. -/
theorem exists_report_of_readsAsDeclaration {tokens : List Token} {index parenthesis : Nat}
    (reads : readsAsDeclaration tokens index = true) (later : index < parenthesis)
    (opens : tokens[parenthesis]? = some (.symbol '(')) :
    index < tokens.length ∧
      ∃ span last, recognizeMethod (Site.at tokens index) = .report span last := by
  simp only [readsAsDeclaration, Bool.and_eq_true, Option.any_eq_true] at reads
  obtain ⟨⟨⟨keyword, present, keyed⟩, apart⟩, named⟩ := reads
  -- The parenthesis stands behind the keyword, so the declaration has an end.
  have member : .symbol '(' ∈ tokens.drop (index + 1) := by
    apply List.mem_of_getElem? (i := parenthesis - (index + 1))
    rwa [List.getElem?_drop, Nat.add_sub_cancel' later]
  obtain ⟨stop, ended⟩ := exists_declarationEnd member
  refine ⟨(List.getElem?_eq_some_iff.mp present).1, ?_⟩
  simp [recognizeMethod, Site.at, drop_eq_cons_of_getElem? present, keyed, apart, named, ended]

/-- A method that was reported at an index has its mark there, and ends where the sweep goes on. -/
theorem recognizeMethod_mark {tokens : List Token} {index last : Nat} {span : Span}
    (inside : index < tokens.length)
    (reported : recognizeMethod (Site.at tokens index) = .report span last) :
    span.mark? = some index ∧ span.last = index + last := by
  -- The mark is the site, and the sweep goes on behind the end of the declaration.
  obtain ⟨_, _, _, stop, -, -, -, -, -, rfl, rfl⟩ := recognizeMethod_report reported
  rw [Site.index_at (Nat.le_of_lt inside)]
  exact ⟨rfl, by simp only; omega⟩

/-- Of two different spans in order one ends before the other starts. -/
theorem SpansInOrder.apart {count : Nat} {spans : List Span} {left right : Span}
    (ordered : SpansInOrder count spans) (known : left ∈ spans) (other : right ∈ spans) :
    left.last < right.first ∨ right.last < left.first ∨ left = right := by
  -- Two spans of a list stand at two places of it, or at the same one.
  obtain ⟨place, here, rfl⟩ := List.getElem_of_mem known
  obtain ⟨position, there, rfl⟩ := List.getElem_of_mem other
  have disjoint := List.pairwise_iff_getElem.mp ordered.disjoint
  rcases Nat.lt_trichotomy place position with before | rfl | after
  · exact .inl (disjoint place position here there before)
  · exact .inr (.inr rfl)
  · exact .inr (.inl (disjoint position place there here after))

/-- Of two methods the one that is marked first ends before the mark of the other. -/
theorem methodSpans_last_lt_mark {tokens : List Token} {earlier later : Span} {mark place : Nat}
    (first : earlier ∈ methodSpans tokens) (second : later ∈ methodSpans tokens)
    (marked : earlier.mark? = some mark) (placed : later.mark? = some place)
    (before : mark < place) :
    earlier.last < place := by
  -- Two different spans are disjoint, and each holds its own mark.
  obtain ⟨own, ownMark, ownStart, ownStop⟩ := methodSpans_mark first
  obtain ⟨other, otherMark, otherStart, otherStop⟩ := methodSpans_mark second
  obtain rfl : mark = own := Option.some.inj (marked.symm.trans ownMark)
  obtain rfl : place = other := Option.some.inj (placed.symm.trans otherMark)
  rcases (methodSpans_inOrder tokens).apart first second with ordered | reversed | rfl
  · omega
  · omega
  · rw [marked, Option.some.injEq] at placed
    omega

/-- Whether a token may stand between the keyword and the semicolon of a plain import. -/
def Token.standsInImport (token : Token) : Bool :=
  -- Names with their marks and aliases, commas between them, and the braces of a group.
  token.isTrivia || token.isNamePart || token.isSymbol ',' || token.isSymbol '{'
    || token.isSymbol '}'

/-- No parenthesis stands in a plain import. -/
theorem lt_parenthesis_of_plain {tokens : List Token} {span : Span} {index parenthesis : Nat}
    (listed : span ∈ importSpans tokens)
    (plain : ∀ token ∈ (span.tokens tokens).tail.dropLast, token.standsInImport = true)
    (begun : span.first ≤ index) (later : index < parenthesis)
    (opens : tokens[parenthesis]? = some (.symbol '(')) : span.last < parenthesis := by
  have bounded := (importSpans_inOrder tokens).bounded span listed
  obtain ⟨-, -, ends⟩ := importSpans_ends listed
  rcases Nat.lt_trichotomy span.last parenthesis with behind | same | inner
  · exact behind
  · rw [same, opens] at ends
    simp at ends
  · -- Inside the import the parenthesis would be one of the plain tokens.
    have member : .symbol '(' ∈ (span.tokens tokens).tail.dropLast := by
      apply List.mem_of_getElem? (i := parenthesis - span.first - 1)
      rw [List.getElem?_dropLast, List.length_tail, Span.length_tokens bounded.2,
        if_pos (by omega), List.getElem?_tail, Span.getElem?_tokens (by omega),
        show span.first + (parenthesis - span.first - 1 + 1) = parenthesis by omega, opens]
    have stands := plain _ member
    simp [Token.standsInImport, Token.isTrivia, Token.isNamePart, Token.isSymbol] at stands

/--
A method has its keyword in a plain import exactly when a word inside it reads as a declaration.

A parenthesis has to follow the import, and no method that starts before it may cover the word.
-/
theorem exists_method_in_import_iff {tokens : List Token} {span : Span}
    (listed : span ∈ importSpans tokens)
    (plain : ∀ token ∈ (span.tokens tokens).tail.dropLast, token.standsInImport = true) :
    (∃ method ∈ methodSpans tokens, ∃ mark, method.mark? = some mark ∧
        span.first ≤ mark ∧ mark ≤ span.last) ↔
      ∃ index parenthesis, span.first ≤ index ∧ index ≤ span.last ∧
        readsAsDeclaration tokens index = true ∧
        span.last < parenthesis ∧ tokens[parenthesis]? = some (.symbol '(') ∧
        ∀ method ∈ methodSpans tokens, ∀ mark, method.mark? = some mark → mark < span.first →
          method.last < index := by
  constructor
  · rintro ⟨method, found, mark, marked, begun, within⟩
    obtain ⟨reads, parenthesis, later, opens⟩ := readsAsDeclaration_of_mark found marked
    refine ⟨mark, parenthesis, begun, within, reads,
      lt_parenthesis_of_plain listed plain begun later opens, opens, ?_⟩
    intro other known place placed before
    exact methodSpans_last_lt_mark known found placed marked (by omega)
  · rintro ⟨index, parenthesis, begun, within, reads, later, opens, free⟩
    obtain ⟨inside, method, last, reported⟩ :=
      exists_report_of_readsAsDeclaration reads (by omega) opens
    rcases mem_sweepAt_or_covered (fun _ => recognizeMethod_steady) inside reported
      (Nat.zero_le index) with found | ⟨place, other, reach, before, covered, seen, found⟩
    · rw [← sweep_eq_sweepAt] at found
      exact ⟨method, found, index, (recognizeMethod_mark inside reported).1, begun, within⟩
    · -- What covers the word starts in the import itself, since nothing before the import does.
      rw [← sweep_eq_sweepAt] at found
      obtain ⟨placed, ended⟩ := recognizeMethod_mark (by omega) seen
      refine ⟨other, found, place, placed, ?_, by omega⟩
      by_contra outside
      have short := free other found place placed (by omega)
      omega

/-- A word in the middle of a group is taken for a declaration that ends with the next function. -/
theorem exists_method_in_import_iff_group :
    let tokens : List Token :=
      [.typed (.word .useWord) "use" 1, .typed .identifier "A" 1, .typed .nameSeparator "\\" 1,
       .symbol '\x7b', .typed .identifier "B" 1, .symbol ',',
       .typed (.word .functionWord) "function" 1, .typed .comment "/* */" 1,
       .typed .identifier "c" 1, .symbol '\x7d', .symbol ';',
       .typed (.word .functionWord) "function" 1, .typed .identifier "g" 1, .symbol '(',
       .symbol ')', .symbol '\x7b', .symbol '\x7d']
    importSpans tokens = [⟨0, 10, none⟩] ∧
      ∃ method ∈ methodSpans tokens, ∃ mark, method.mark? = some mark ∧ 0 ≤ mark ∧ mark ≤ 10 := by
  intro tokens
  have imported : importSpans tokens = [⟨0, 10, none⟩] := by
    unfold tokens
    cbv
  have found : methodSpans tokens = [⟨6, 16, some 6⟩] := by
    unfold tokens
    cbv
  refine ⟨imported, ?_⟩
  -- The parenthesis of the declaration behind the import is the one that the member needs.
  have listed : (⟨0, 10, none⟩ : Span) ∈ importSpans tokens := by
    rw [imported]
    exact List.mem_singleton_self _
  refine (exists_method_in_import_iff listed (by decide)).mpr
    ⟨6, 13, by decide, by decide, by decide, by decide, by decide, ?_⟩
  rw [found]
  simp

/--
A function that a group imports is taken for a method, and the function behind the import is lost.

The group is a plain import, and its last token comes behind the mark of the method.
-/
theorem method_in_group_import :
    let tokens : List Token :=
      [.typed .openTag "<?php " 1, .typed (.word .useWord) "use" 1, .typed .whitespace " " 1,
       .typed .identifier "Lib" 1, .typed .nameSeparator "\\" 1, .symbol '\x7b',
       .typed (.word .functionWord) "function" 1, .typed .whitespace " " 1,
       .typed .identifier "a" 1, .symbol '\x7d', .symbol ';', .typed .whitespace " " 1,
       .typed (.word .functionWord) "function" 1, .typed .whitespace " " 1,
       .typed .identifier "g" 1, .symbol '(', .symbol ')', .typed .whitespace " " 1,
       .symbol '\x7b', .symbol '\x7d']
    importSpans tokens = [⟨1, 10, none⟩] ∧
      (∀ token ∈ (Span.tokens ⟨1, 10, none⟩ tokens).tail.dropLast,
        token.standsInImport = true) ∧
      methodSpans tokens = [⟨6, 19, some 6⟩] ∧
      (methods tokens).toOption.map (·.map Method.name) = some ["a"] := by
  intro tokens
  -- The lists are evaluated, and the tokens of the import are checked one by one.
  refine ⟨?_, ?_, ?_, ?_⟩
  · unfold tokens
    cbv
  · decide
  · unfold tokens
    cbv
  · unfold tokens
    cbv

end PhpOutline
