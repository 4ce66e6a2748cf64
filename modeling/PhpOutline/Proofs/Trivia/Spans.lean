import PhpOutline.Proofs.Trivia.Sweep

/-!
The recognizers of classes, methods, properties and imports decide alike on bare tokens.

Imports leap over the bodies of classes, where a leap may start on trivia.
They are compared by way of a recognizer that takes bodies token by token and finds the same.
-/

namespace PhpOutline

/-- Whether a class is declared does not depend on trivia. -/
theorem declaresClass_bare {tokens : List Token} {index : Nat} {token : Token}
    (present : tokens[index]? = some token) (significant : token.isTrivia = false) :
    declaresClass (Site.at tokens index).bare = declaresClass (Site.at tokens index) := by
  -- The kind of the token, the name ahead and the last significant token behind are all the same.
  have behind : (Site.at tokens index).bare.behind = bare (Site.at tokens index).behind := rfl
  simp only [declaresClass, Site.ahead_bare present significant, Site.ahead_at present, behind,
    Token.kind?_unlined, classNameOffset_bare, Option.isSome_map]
  rw [any_significantBehind_bare (fun token => by simp)]

/-- The keyword of a class is structural. -/
theorem Structural.classLike : Structural fun token => token.kind?.any Kind.isClassLike where
  trivia := by
    intro token trivia
    cases token with
    | symbol char => rfl
    -- The kinds that declare a class are reserved words, and no trivia is one.
    | typed kind text line =>
      cases kind <;> simp_all [Token.isTrivia, Token.kind?, Kind.isComment, Kind.isClassLike]
  unlined := by simp

/-- Trivia declares no class. -/
theorem declaresClass_of_trivia {tokens : List Token} {index : Nat} {token : Token}
    (present : tokens[index]? = some token) (trivia : token.isTrivia = true) :
    declaresClass (Site.at tokens index) = false := by
  simp [declaresClass, Site.ahead_at present, Structural.classLike.trivia token trivia]

/-- Names of classes are recognized alike. -/
theorem recognizeClassName_bareAlike (filter : ClassFilter) (tokens : List Token) :
    BareAlike (recognizeClassName filter) (recognizeClassName filter) tokens where
  trivia := by
    intro index token present trivia
    simp [recognizeClassName, Site.ahead_at present, declaresClass_of_trivia present trivia]
  significant := by
    intro index token present significant
    have wanted : filter.wants token.unlined = filter.wants token := by simp [ClassFilter.wants]
    simp only [recognizeClassName, Site.ahead_bare present significant, Site.ahead_at present,
      declaresClass_bare present significant, wanted]
    -- A keyword that is wanted reports the name ahead, which is a bare token, and any other is
    -- passed.
    split
    · rw [classNameOffset_bare]
      cases named : classNameOffset (tokens.drop (index + 1)) with
      | none => exact (Verdict.bare_pass_zero present significant).symm
      | some offset =>
        obtain ⟨⟨name, standing, names⟩, -⟩ := nameOffset_spec named
        obtain ⟨ends, passed⟩ := bareLast_after_significant present significant standing
          (Structural.namesClass.significant names)
        have inside := (List.getElem?_eq_some_iff.mp present).1
        simp [Verdict.bare, Span.bare, Site.index_bare, Nat.le_of_lt inside, ends, passed,
          bareIndex_after present significant]
    · exact (Verdict.bare_pass_zero present significant).symm

/-- Braces of classes are recognized alike. -/
theorem recognizeClassBrace_bareAlike (tokens : List Token) :
    BareAlike recognizeClassBrace recognizeClassBrace tokens where
  trivia := by
    intro index token present trivia
    simp [recognizeClassBrace, Site.ahead_at present, declaresClass_of_trivia present trivia]
  significant := by
    intro index token present significant
    simp only [recognizeClassBrace, Site.ahead_bare present significant, Site.ahead_at present,
      declaresClass_bare present significant, findIdx?_bare (Structural.symbol '{')]
    -- A keyword that declares reports the next brace, which is a bare token, and any other is
    -- passed.
    split
    · cases opened : (tokens.drop (index + 1)).findIdx? (Token.isSymbol '{') with
      | none => rfl
      | some offset =>
        rw [findIdx?_eq_findFrom] at opened
        obtain ⟨-, ⟨brace, standing, opens⟩, -⟩ := findFrom_spec opened
        obtain ⟨ends, passed⟩ := bareLast_after_significant present significant standing
          ((Structural.symbol '{').significant opens)
        have inside := (List.getElem?_eq_some_iff.mp present).1
        simp [Verdict.bare, Span.bare, Site.index_bare, Nat.le_of_lt inside, ends, passed,
          bareIndex_after present significant]
    · exact (Verdict.bare_pass_zero present significant).symm

/-- Something is counted in a declaration up to its end. -/
theorem declarationEnd_counted {after : List Token} {stop : Nat}
    (ended : declarationEnd after = some stop) : 1 ≤ bareIndex after (stop + 1) := by
  -- The parenthesis of the parameters is a token before the end.
  obtain ⟨parameters, opened, reached, -⟩ := declarationEnd_spec ended
  rw [findIdx?_eq_findFrom] at opened
  obtain ⟨-, ⟨parenthesis, present, opens⟩, -⟩ := findFrom_spec opened
  calc 1 ≤ bareIndex after (parameters + 1) := by
        rw [bareIndex_succ_of_significant present ((Structural.symbol '(').significant opens)]
        exact Nat.le_add_left 1 _
    _ ≤ bareIndex after (stop + 1) := bareIndex_mono after (by omega)

/-- The place where the leading part of a declaration starts. -/
theorem bareIndex_leading {isModifier : Token → Bool}
    (unlined : ∀ token : Token, isModifier token.unlined = isModifier token) {tokens : List Token}
    {index : Nat} (inside : index ≤ tokens.length) :
    bareIndex tokens (index - leadingLength isModifier (Site.at tokens index).behind) =
      bareIndex tokens index - leadingLength isModifier (bare (Site.at tokens index).behind) := by
  have short : leadingLength isModifier (Site.at tokens index).behind ≤ index := by
    calc leadingLength isModifier (Site.at tokens index).behind
        ≤ ((Site.at tokens index).behind.takeWhile (Token.leads isModifier)).length :=
          leadingLength_le _ _
      _ ≤ (Site.at tokens index).behind.length := (List.takeWhile_sublist _).length_le
      _ = index := Site.index_at inside
  rw [leadingLength_bare unlined]
  generalize leadingLength isModifier (Site.at tokens index).behind = length at short
  -- The leading part is what stands between its start and the index.
  have counted : bareIndex (Site.at tokens index).behind length =
      bareIndex (tokens.drop (index - length)) length := by
    have same : (Site.at tokens index).behind.take length =
        ((tokens.drop (index - length)).take length).reverse := by
      rw [Site.at, List.take_reverse, List.length_take, Nat.min_eq_left inside, List.drop_take,
        Nat.sub_sub_self short]
    rw [bareIndex, same, bare_reverse, List.length_reverse, bareIndex]
  have split := bareIndex_add tokens (index - length) length
  rw [Nat.sub_add_cancel short] at split
  omega

/-- Modifiers of methods do not depend on lines. -/
theorem Token.isMethodModifier_unlined (token : Token) :
    token.unlined.isMethodModifier = token.isMethodModifier := by
  simp [Token.isMethodModifier]

/-- Modifiers of properties are structural. -/
theorem Structural.propertyModifier : Structural Token.isPropertyModifier :=
  ((((Structural.word .publicWord |>.or (.word .protectedWord)).or (.word .privateWord)).or
    (.word .staticWord)).or (.word .varWord)).or (.word .readonlyWord)

/-- Methods are recognized alike. -/
theorem recognizeMethod_bareAlike (tokens : List Token) :
    BareAlike recognizeMethod recognizeMethod tokens where
  trivia := by
    intro index token present trivia
    simp [recognizeMethod, Site.ahead_at present,
      (Structural.word .functionWord).trivia token trivia]
  significant := by
    intro index token present significant
    have behind : (Site.at tokens index).bare.behind = bare (Site.at tokens index).behind := rfl
    have inside := (List.getElem?_eq_some_iff.mp present).1
    simp only [recognizeMethod, Site.ahead_bare present significant, Site.ahead_at present, behind,
      Token.isWord_unlined, followsUse_bare, functionNameOffset_bare, Option.isSome_map,
      declarationEnd_bare]
    -- The declaration ends at a token that counts, and as many bare tokens lead it.
    split
    · cases ended : declarationEnd (tokens.drop (index + 1)) with
      | none => exact (Verdict.bare_pass_zero present significant).symm
      | some stop =>
        obtain ⟨ends, passed⟩ := bareLast_after present significant (declarationEnd_counted ended)
        have leads := bareIndex_leading Token.isMethodModifier_unlined (Nat.le_of_lt inside)
        simp [Verdict.bare, Span.bare, Site.index_bare, Nat.le_of_lt inside, ends, passed, leads]
    · exact (Verdict.bare_pass_zero present significant).symm

/-- Properties are recognized alike. -/
theorem recognizeProperty_bareAlike (tokens : List Token) :
    BareAlike recognizeProperty recognizeProperty tokens where
  trivia := by
    intro index token present trivia
    have noFunction := (Structural.word .functionWord).trivia token trivia
    have noModifier := Structural.propertyModifier.trivia token trivia
    simp [recognizeProperty, Site.ahead_at present, noFunction, noModifier]
  significant := by
    intro index token present significant
    have behind : (Site.at tokens index).bare.behind = bare (Site.at tokens index).behind := rfl
    have inside := (List.getElem?_eq_some_iff.mp present).1
    have read : readStatement (Site.at tokens index).bare.ahead =
        (readStatement (Site.at tokens index).ahead).map (bareIndex (tokens.drop index)) :=
      readStatement_bare _
    have starts : startsStatement (bare (Site.at tokens index).behind) =
        startsStatement (Site.at tokens index).behind :=
      startsStatementFrom_bare 0 _
    simp only [recognizeProperty, read]
    simp only [Site.ahead_bare present significant, Site.ahead_at present, behind, starts,
      Token.isWord_unlined, followsUse_bare, Structural.propertyModifier.unlined,
      declarationEnd_bare]
    split
    · -- A function is leapt over up to the end of its declaration.
      cases ended : declarationEnd (tokens.drop (index + 1)) with
      | none => exact (Verdict.bare_pass_zero present significant).symm
      | some stop =>
        obtain ⟨-, passed⟩ := bareLast_after present significant (declarationEnd_counted ended)
        simp [Verdict.bare, passed]
    · split
      · rw [← Site.ahead_at present]
        cases declared : readStatement (Site.at tokens index).ahead with
        | other => exact (Verdict.bare_pass_zero present significant).symm
        | truncated => rfl
        | declares variableOffset lastOffset =>
          obtain ⟨-, -, ends⟩ := readStatement_spec declared
          have semicolon : tokens[index + lastOffset]? = some (.symbol ';') := by
            rwa [Site.at, List.getElem?_drop] at ends
          have leads : bareIndex tokens
              (index - leadingLength (fun _ => false) (Site.at tokens index).behind) =
              bareIndex tokens index -
                leadingLength (fun _ => false) (bare (Site.at tokens index).behind) :=
            bareIndex_leading (fun _ => rfl) (Nat.le_of_lt inside)
          have stops := bareLast_of_significant semicolon rfl
          have passes : bareLast (tokens.drop index) lastOffset =
              bareIndex (tokens.drop index) lastOffset :=
            bareLast_of_significant ends rfl
          simp [Verdict.bare, Statement.map, Span.bare, Site.index_bare, Nat.le_of_lt inside, leads,
            stops, passes, bareIndex_add]
      · exact (Verdict.bare_pass_zero present significant).symm

/-- The same body among the bare tokens. -/
def Body.bare (tokens : List Token) (body : Body) : Body :=
  -- A body that is never closed may end on trivia.
  ⟨bareIndex tokens body.opening, bareLast tokens body.closing⟩

/-- The brace of a body is a token of the list. -/
theorem classBraceSpans_brace {tokens : List Token} {span : Span}
    (listed : span ∈ classBraceSpans tokens) : tokens[span.first]? = some (.symbol '{') := by
  -- The brace is the one that the search behind the keyword ended at.
  obtain ⟨index, last, inside, reported⟩ := mem_sweep listed
  obtain ⟨keyword, after, offset, ahead, -, opened, rfl, -⟩ := recognizeClassBrace_report reported
  obtain ⟨-, -, rest⟩ := Site.ahead_at_eq_cons ahead
  rw [findIdx?_eq_findFrom] at opened
  obtain ⟨-, ⟨brace, standing, opens⟩, -⟩ := findFrom_spec opened
  rw [rest, List.getElem?_drop, Token.isSymbol_iff.mp opens] at standing
  rwa [Site.index_at (Nat.le_of_lt inside)]

/-- The bodies of classes are the same. -/
theorem classBodies_bare (tokens : List Token) :
    classBodies (bare tokens) = (classBodies tokens).map (Body.bare tokens) := by
  have braces : classBraceSpans (bare tokens) = (classBraceSpans tokens).map (Span.bare tokens) :=
    sweep_bare (recognizeClassBrace_bareAlike tokens)
  rw [classBodies, classBodies, braces, List.map_map, List.map_map]
  refine List.map_congr_left fun span listed => ?_
  -- The opening brace is a bare token, so the walk from it ends at the same closer, or at none.
  have brace := classBraceSpans_brace listed
  have inside := (List.getElem?_eq_some_iff.mp brace).1
  simp only [Function.comp_apply, Span.bare, Body.bare, closerAt?_bare brace rfl, Body.mk.injEq,
    true_and]
  cases closed : closerAt? tokens span.first with
  | none => exact (bareLast_length (by omega)).symm
  | some close =>
    obtain ⟨_, -, -, closes⟩ := closerAt?_spec closed
    exact (bareLast_of_significant closes rfl).symm

/-- A significant token lies in a body exactly when its place lies in the bare body. -/
theorem Body.contains_bare {tokens : List Token} {index : Nat} {token : Token}
    (present : tokens[index]? = some token) (significant : token.isTrivia = false) {body : Body}
    (brace : tokens[body.opening]? = some (.symbol '{')) (ordered : body.opening ≤ body.closing) :
    (body.bare tokens).contains (bareIndex tokens index) = body.contains index := by
  have next := bareIndex_succ_of_significant present significant
  have counted : 1 ≤ bareIndex tokens (body.closing + 1) := by
    calc 1 ≤ bareIndex tokens (body.opening + 1) := by
          rw [bareIndex_succ_of_significant brace rfl]
          exact Nat.le_add_left 1 _
      _ ≤ bareIndex tokens (body.closing + 1) := bareIndex_mono tokens (by omega)
  -- An index before the opening one keeps its distance, for the token at it is bare.
  have opens : bareIndex tokens body.opening ≤ bareIndex tokens index ↔ body.opening ≤ index := by
    refine ⟨fun placed => ?_, fun ordered => bareIndex_mono tokens ordered⟩
    by_contra later
    have beyond := bareIndex_mono tokens (by omega : index + 1 ≤ body.opening)
    omega
  -- The closer itself may be no token, so the body is compared by what comes behind its end.
  have closes : bareIndex tokens index ≤ bareLast tokens body.closing ↔ index ≤ body.closing := by
    rw [bareLast]
    refine ⟨fun placed => ?_, fun ordered => ?_⟩
    · by_contra later
      have before := bareIndex_mono tokens (by omega : body.closing + 1 ≤ index)
      omega
    · have before := bareIndex_mono tokens (by omega : index + 1 ≤ body.closing + 1)
      omega
  simp [Body.contains, Body.bare, opens, closes]

/-- A significant token lies in one of the bodies exactly when its place does. -/
theorem any_contains_bare {tokens : List Token} {index : Nat} {token : Token}
    (present : tokens[index]? = some token) (significant : token.isTrivia = false) :
    ((classBodies tokens).any fun body => (body.bare tokens).contains (bareIndex tokens index)) =
      (classBodies tokens).any fun body => body.contains index := by
  -- Each body opens at a brace, so each contains the bare place exactly when it contains the index.
  refine Bool.eq_iff_iff.mpr ?_
  rw [List.any_eq_true, List.any_eq_true]
  refine exists_congr fun body => and_congr_right fun listed => ?_
  obtain ⟨span, opened, rfl⟩ := List.mem_map.mp listed
  rw [Body.contains_bare present significant (classBraceSpans_brace opened)
    (classBodies_inRange listed).1]

/-- Recognizes an import like `recognizeImport`, but takes bodies token by token. -/
def recognizeImportStep (bodies : List Body) (site : Site) : Verdict :=
  -- A step inside a body leads to the next token, so trivia is like any other token there.
  match site.ahead with
  | [] => .halt
  | token :: after =>
    if bodies.any fun body => body.contains site.index then .pass 0
    else if token.isWord .useWord && startsStatement site.behind then
      match after.findIdx? (Token.isSymbol ';') with
      | some stop => .report { first := site.index, last := site.index + 1 + stop } (1 + stop)
      | none => .halt
    else .pass 0

/-- A sweep that passes over single tokens comes to the end of their run. -/
theorem sweepAt_eq_of_passes {recognize : Site → Verdict} {tokens : List Token} {index stop : Nat}
    (ordered : index ≤ stop)
    (passes : ∀ place, index ≤ place → place < stop → place < tokens.length →
      recognize (Site.at tokens place) = .pass 0) :
    sweepAt recognize tokens index = sweepAt recognize tokens stop := by
  -- A site that is passed adds no span, so the induction is on how many are passed.
  induction ordered with
  | refl => rfl
  | step ordered ih =>
    rename_i stop
    rw [ih fun place begun earlier => passes place begun (by omega)]
    rcases Nat.lt_or_ge stop tokens.length with inside | ended
    · rw [sweepAt_step inside, passes stop ordered (by omega) inside]
    · rw [sweepAt_end ended, sweepAt_end (by omega)]

/-- In a body every step is one token long. -/
theorem recognizeImportStep_of_contains {bodies : List Body} {body : Body} {tokens : List Token}
    {index : Nat} (listed : body ∈ bodies) (inside : index < tokens.length)
    (contained : body.contains index = true) :
    recognizeImportStep bodies (Site.at tokens index) = .pass 0 := by
  -- One body that contains the site is enough to pass it.
  have covered : (bodies.any fun body => body.contains index) = true :=
    List.any_eq_true.mpr ⟨body, listed, contained⟩
  rw [recognizeImportStep, Site.ahead_at (List.getElem?_eq_getElem inside)]
  simp only [Site.index_at (Nat.le_of_lt inside), covered, if_true]

/-- Taking bodies token by token finds the same imports as leaping over them. -/
theorem sweepAt_recognizeImport (bodies : List Body) (tokens : List Token) (index : Nat) :
    sweepAt (recognizeImport bodies) tokens index =
      sweepAt (recognizeImportStep bodies) tokens index := by
  induction remaining : tokens.length - index using Nat.strongRecOn generalizing index with
  | ind _ ih =>
    rcases Nat.lt_or_ge index tokens.length with inside | ended
    · have onward : ∀ last, sweepAt (recognizeImport bodies) tokens (index + (last + 1)) =
          sweepAt (recognizeImportStep bodies) tokens (index + (last + 1)) :=
        fun last => ih _ (by omega) _ rfl
      have ahead := Site.ahead_at (List.getElem?_eq_getElem inside)
      have here := Site.index_at (Nat.le_of_lt inside)
      cases found : bodies.find? fun body => body.contains (Site.at tokens index).index with
      | some body =>
        -- Every token up to the end of the body lies in it too.
        have decided :
            recognizeImport bodies (Site.at tokens index) = .pass (body.closing - index) := by
          rw [recognizeImport, ahead, found, here]
        have holds := List.find?_some found
        simp only [here, Body.contains, Bool.and_eq_true, decide_eq_true_eq] at holds
        rw [sweepAt_step inside, decided]
        refine (onward _).trans (sweepAt_eq_of_passes (by omega) ?_).symm
        intro place begun earlier within
        refine recognizeImportStep_of_contains (List.mem_of_find?_eq_some found) within ?_
        simp only [Body.contains, Bool.and_eq_true, decide_eq_true_eq]
        omega
      | none =>
        have same : recognizeImport bodies (Site.at tokens index) =
            recognizeImportStep bodies (Site.at tokens index) := by
          have outside :
              (bodies.any fun body => body.contains (Site.at tokens index).index) = false := by
            simpa [List.find?_eq_none] using found
          rw [recognizeImport, recognizeImportStep, ahead, found, outside]
          rfl
        rw [sweepAt_step inside, sweepAt_step inside, same]
        cases recognizeImportStep bodies (Site.at tokens index) with
        | pass last => exact onward last
        | report span last => exact congrArg (span :: ·) (onward last)
        | halt => rfl
    · rw [sweepAt_end ended, sweepAt_end ended]

/-- Imports are recognized alike when bodies are taken token by token. -/
theorem recognizeImportStep_bareAlike (tokens : List Token) :
    BareAlike (recognizeImportStep (classBodies tokens))
      (recognizeImportStep (classBodies (bare tokens))) tokens where
  trivia := by
    intro index token present trivia
    simp [recognizeImportStep, Site.ahead_at present,
      (Structural.word .useWord).trivia token trivia]
  significant := by
    intro index token present significant
    have behind : (Site.at tokens index).bare.behind = bare (Site.at tokens index).behind := rfl
    have inside := (List.getElem?_eq_some_iff.mp present).1
    have starts : startsStatement (bare (Site.at tokens index).behind) =
        startsStatement (Site.at tokens index).behind :=
      startsStatementFrom_bare 0 _
    -- Whether a site lies in the body of a class is the same, since the bodies are alike.
    have covered : ((classBodies (bare tokens)).any fun body =>
        body.contains (Site.at tokens index).bare.index) =
        (classBodies tokens).any fun body => body.contains (Site.at tokens index).index := by
      rw [classBodies_bare, List.any_map, Site.index_bare, Site.index_at (Nat.le_of_lt inside)]
      exact any_contains_bare present significant
    simp only [recognizeImportStep, Site.ahead_bare present significant, Site.ahead_at present,
      covered, behind, starts, Token.isWord_unlined, findIdx?_bare (Structural.symbol ';')]
    -- A keyword that starts a statement reports the next semicolon, which is a bare token.
    split
    · exact (Verdict.bare_pass_zero present significant).symm
    · split
      · cases ended : (tokens.drop (index + 1)).findIdx? (Token.isSymbol ';') with
        | none => rfl
        | some stop =>
          rw [findIdx?_eq_findFrom] at ended
          obtain ⟨-, ⟨semicolon, standing, ends⟩, -⟩ := findFrom_spec ended
          obtain ⟨stops, passed⟩ := bareLast_after_significant present significant standing
            ((Structural.symbol ';').significant ends)
          simp [Verdict.bare, Span.bare, Site.index_bare, Nat.le_of_lt inside, stops, passed]
      · exact (Verdict.bare_pass_zero present significant).symm

/-- The imports are the same. -/
theorem importSpans_bare (tokens : List Token) :
    importSpans (bare tokens) = (importSpans tokens).map (Span.bare tokens) := by
  -- The sweep that leaps over bodies is first replaced by the one that passes token by token.
  simp only [importSpans, sweep_eq_sweepAt, sweepAt_recognizeImport]
  rw [← sweep_eq_sweepAt, ← sweep_eq_sweepAt]
  exact sweep_bare (recognizeImportStep_bareAlike tokens)

/-- The names of classes are the same. -/
theorem classNameSpans_bare (filter : ClassFilter) (tokens : List Token) :
    classNameSpans filter (bare tokens) =
      (classNameSpans filter tokens).map (Span.bare tokens) :=
  sweep_bare (recognizeClassName_bareAlike filter tokens)

/-- The properties are the same. -/
theorem propertySpans_bare (tokens : List Token) :
    propertySpans (bare tokens) = (propertySpans tokens).map (Span.bare tokens) :=
  sweep_bare (recognizeProperty_bareAlike tokens)

/-- The methods are the same. -/
theorem methodSpans_bare (tokens : List Token) :
    methodSpans (bare tokens) = (methodSpans tokens).map (Span.bare tokens) :=
  sweep_bare (recognizeMethod_bareAlike tokens)

end PhpOutline
