import Mathlib
import PhpOutline.Proofs.Cursor
import PhpOutline.Proofs.MethodRecord
import PhpOutline.Proofs.Text.Trim

/-!
Every reported property is a statement that declares one.

A modifier at the start of a statement leads over a type to the variable, and the statement ends on
the first semicolon that is met when nested parts are leapt over.
The record of the property is read from the tokens in front of the variable.
-/

namespace PhpOutline

/-- Whether a token may be a part of the type of a property. -/
def Token.isTypePart (token : Token) : Bool :=
  -- Names and reserved words without a role of their own, and the symbols that combine types.
  ['?', '|', '&', '(', ')'].any token.isSymbol || token.isKind .identifier
    || token.isKind .nameSeparator || token.isWord .otherWord

/-- Before the variable stand only trivia, modifiers and the parts of a type. -/
theorem Token.precedesVariable_iff {token : Token} :
    token.precedesVariable = true ↔
      token.isTrivia = true ∨ token.isPropertyModifier = true ∨ token.isTypePart = true := by
  simp only [Token.precedesVariable, Token.isTypePart, List.any_cons, List.any_nil, Bool.or_false,
    Bool.or_assoc, Bool.or_eq_true]

/-- A variable is no token that may stand before the variable. -/
theorem Token.isKind_variableName_of_precedesVariable {token : Token}
    (precedes : token.precedesVariable = true) : token.isKind .variableName = false := by
  -- A variable ends the run before the mark, so it is none of that run's tokens.
  cases named : token.isKind .variableName with
  | false => rfl
  | true =>
    obtain ⟨text, line, rfl⟩ := Token.isKind_iff.mp named
    have refused : (Token.typed .variableName text line).precedesVariable = false := rfl
    simp [refused] at precedes

/--
A reading of tokens from left to right, from one index to another, with the indices that it meets.

It leaps from every opening delimiter to the one that closes it, and goes on behind that one.
-/
inductive LeapingRead (tokens : List Token) : Nat → List Nat → Nat → Prop where
  | done (index : Nat) : LeapingRead tokens index [] index
  | token {index stop : Nat} {met : List Nat} {token : Token}
      (present : tokens[index]? = some token)
      (plain : ∀ delimiter : Delimiter, token ≠ .symbol delimiter.opener)
      (later : LeapingRead tokens (index + 1) met stop) :
      LeapingRead tokens index (index :: met) stop
  | part {index close stop : Nat} {met : List Nat} {delimiter : Delimiter}
      (opened : tokens[index]? = some (.symbol delimiter.opener))
      (closed : IsLeast {last | IsLevel delimiter tokens index last} close)
      (later : LeapingRead tokens (close + 1) met stop) :
      LeapingRead tokens index (index :: met) stop

/-- The semicolon of a property is the first one met, and no closing brace is met before it. -/
theorem leapingRead_of_semicolonReading {tokens ahead : List Token} {start offset : Nat}
    (place : tokens.drop start = ahead) (read : semicolonReading ahead = .found offset) :
    ∃ met, LeapingRead tokens start met (start + offset) ∧
      ∀ index ∈ met, tokens[index]? ≠ some (.symbol ';') ∧ tokens[index]? ≠ some (.symbol '}') := by
  fun_induction semicolonReading ahead generalizing start offset with
  | case1 => simp at read
  | case2 token rest semicolon =>
    obtain rfl := Reading.found.inj read
    exact ⟨[], .done start, by simp⟩
  | case3 token rest _ delimiter opened length closed ih =>
    -- A part that is leapt over is met at its opener only.
    obtain ⟨further, later, rfl⟩ := Reading.shift_eq_found_iff.mp read
    obtain ⟨_, ahead⟩ := openedBy?_eq_some_iff.mp opened
    obtain ⟨rfl, rfl⟩ := List.cons.inj ahead
    have present : tokens[start]? = some (.symbol delimiter.opener) := by
      rw [← List.head?_drop, place, List.head?_cons]
    have behind : tokens.drop (start + length + 1) = rest.drop length := by
      rw [show start + length + 1 = start + (length + 1) by omega, ← List.drop_drop, place,
        List.drop_succ_cons]
    obtain ⟨met, reads, plain⟩ := ih behind later
    have least := (closerOffset?_level present).1 length (by rw [place]; exact closed)
    refine ⟨start :: met, .part present least ?_, ?_⟩
    · rwa [show start + (further + (length + 1)) = start + length + 1 + further by omega]
    · intro index listed
      rcases List.mem_cons.mp listed with rfl | listed
      · cases delimiter <;> simp [present, Delimiter.opener]
      · exact plain index listed
  | case4 => simp at read
  | case5 => simp at read
  | case6 token rest noSemicolon unopened noBrace ih =>
    obtain ⟨further, later, rfl⟩ := Reading.shift_eq_found_iff.mp read
    have present : tokens[start]? = some token := by
      rw [← List.head?_drop, place, List.head?_cons]
    have behind : tokens.drop (start + 1) = rest := by
      rw [← List.drop_drop, place, List.drop_succ_cons, List.drop_zero]
    obtain ⟨met, reads, plain⟩ := ih behind later
    refine ⟨start :: met, .token present ?_ ?_, ?_⟩
    · rintro delimiter rfl
      simp [openedBy?_eq_some_iff.mpr ⟨rest, rfl⟩] at unopened
    · rwa [show start + (further + 1) = start + 1 + further by omega]
    · intro index listed
      rcases List.mem_cons.mp listed with rfl | listed
      · rw [present]
        exact ⟨fun same => noSemicolon (Token.isSymbol_iff.mpr (Option.some.inj same)),
          fun same => noBrace (Token.isSymbol_iff.mpr (Option.some.inj same))⟩
      · exact plain index listed

/-- A declaring statement is read up to its variable, and from there on up to its semicolon. -/
theorem readStatement_eq_declares {tokens : List Token} {variableOffset lastOffset : Nat}
    (read : readStatement tokens = .declares variableOffset lastOffset) :
    variableReading tokens = .found variableOffset ∧
      ∃ offset, semicolonReading (tokens.drop (variableOffset + 1)) = .found offset ∧
        lastOffset = variableOffset + 1 + offset := by
  -- Only the arm that found both the name and the semicolon declares.
  unfold readStatement at read
  split at read
  · simp at read
  · simp at read
  · rename_i offset named
    split at read
    · simp at read
    · simp at read
    · rename_i further semicolon
      obtain ⟨rfl, rfl⟩ := Statement.declares.inj read
      exact ⟨named, further, semicolon, rfl⟩

/-- Whether the token at an index is a modifier of a property at the start of a statement. -/
def startsProperty (tokens : List Token) (index : Nat) : Bool :=
  -- Attribute groups may stand between the two.
  tokens[index]?.any Token.isPropertyModifier && startsStatement (tokens.take index).reverse

/-- The span of a statement that starts with a modifier and declares the variable at its mark. -/
structure IsPropertyStatement (tokens : List Token) (span : Span) (start mark : Nat) : Prop where
  first_le : span.first ≤ start
  start_lt : start < mark
  /-- Only comments and white space come before the modifier. -/
  leading : ∀ token ∈ tokens.extract span.first start, token.isTrivia = true
  starts : startsProperty tokens start = true
  /-- From the modifier to the variable stand trivia, modifiers and a type. -/
  typed : ∀ token ∈ tokens.extract start mark,
    token.isTrivia = true ∨ token.isPropertyModifier = true ∨ token.isTypePart = true
  named : tokens[mark]?.any (Token.isKind .variableName) = true
  /-- The variable is the first one of the span. -/
  unnamed : ∀ token ∈ tokens.extract span.first mark, token.isKind .variableName = false
  semicolon : tokens[span.last]? = some (.symbol ';')
  /-- On the way to the last token no other semicolon is met, and no brace that closes. -/
  ends : ∃ met, LeapingRead tokens (mark + 1) met span.last ∧
    ∀ index ∈ met, tokens[index]? ≠ some (.symbol ';') ∧ tokens[index]? ≠ some (.symbol '}')

/-- A token of an excerpt stands at an index between its ends. -/
theorem exists_index_of_mem_extract {tokens : List Token} {start stop : Nat} {token : Token}
    (listed : token ∈ tokens.extract start stop) :
    ∃ index, start ≤ index ∧ index < stop ∧ tokens[index]? = some token := by
  -- A place within the cut becomes a place of the list, moved by the cut's start.
  rw [List.extract_eq_take_drop] at listed
  obtain ⟨offset, present⟩ := List.getElem?_of_mem listed
  have near : offset < stop - start := by
    have short := (List.getElem?_eq_some_iff.mp present).1
    rw [List.length_take] at short
    omega
  rw [List.getElem?_take_of_lt near, List.getElem?_drop] at present
  exact ⟨start + offset, by omega, by omega, present⟩

/-- Every property that is reported is a property statement. -/
theorem propertySpans_statement {tokens : List Token} {span : Span}
    (listed : span ∈ propertySpans tokens) :
    ∃ start mark, span.mark? = some mark ∧ IsPropertyStatement tokens span start mark := by
  obtain ⟨index, last, inside, reported⟩ := mem_sweep listed
  obtain ⟨keyword, after, offset, ahead, modifies, begins, declared, rfl⟩ :=
    recognizeProperty_report reported
  obtain ⟨-, present, -⟩ := Site.ahead_at_eq_cons ahead
  obtain ⟨-, -, semicolon⟩ := readStatement_spec declared
  obtain ⟨named, further, ended, rfl⟩ := readStatement_eq_declares declared
  obtain ⟨⟨variableName, standing, isVariable⟩, between⟩ := variableReading_spec named
  rw [Site.index_at (Nat.le_of_lt inside)]
  simp only [Site.at, List.getElem?_drop, List.drop_drop] at standing between semicolon ended
  -- The tokens in front of the modifier are those that were counted, and they are trivia.
  have trivial : ∀ {place token}, index - leadingLength (fun _ => false)
      (Site.at tokens index).behind
      ≤ place → place < index → tokens[place]? = some token → token.isTrivia = true := by
    intro place token begun before there
    simpa [Token.leads] using leads_of_leadingLength (Nat.le_of_lt inside) begun before there
  have precedes : ∀ {place token}, index ≤ place → place < index + offset →
      tokens[place]? = some token → token.precedesVariable = true := by
    intro place token begun before there
    exact between (place - index) token (by omega) (by rwa [Nat.add_sub_cancel' begun])
  have positive : 0 < offset := by
    rcases Nat.eq_zero_or_pos offset with rfl | positive
    · rw [Nat.add_zero, present, Option.some.injEq] at standing
      subst standing
      obtain ⟨text, line, rfl⟩ := Token.isKind_iff.mp isVariable
      simp [Token.isPropertyModifier, Token.isWord, Token.isKind] at modifies
    · exact positive
  obtain ⟨met, reads, plain⟩ := leapingRead_of_semicolonReading rfl ended
  refine ⟨index, index + offset, rfl, ?_⟩
  exact
    { first_le := Nat.sub_le _ _
      start_lt := by omega
      leading := by
        intro token member
        obtain ⟨place, begun, before, there⟩ := exists_index_of_mem_extract member
        exact trivial begun before there
      starts := by
        rw [startsProperty, present, Option.any_some, modifies]
        exact begins
      typed := by
        intro token member
        obtain ⟨place, begun, before, there⟩ := exists_index_of_mem_extract member
        exact Token.precedesVariable_iff.mp (precedes begun before there)
      named := by rw [standing, Option.any_some, isVariable]
      unnamed := by
        intro token member
        obtain ⟨place, begun, before, there⟩ := exists_index_of_mem_extract member
        apply Token.isKind_variableName_of_precedesVariable
        rcases Nat.lt_or_ge place index with front | behind
        · exact Token.precedesVariable_iff.mpr (.inl (trivial begun front there))
        · exact precedes behind before there
      semicolon := semicolon
      ends := ⟨met, by rwa [← Nat.add_assoc], plain⟩ }

/-- The record of a property whose variable stands at an index, read from the tokens before it. -/
structure Property.ReadFrom (tokens : List Token) (span : Span) (mark : Nat) (property : Property) :
    Prop where
  /-- The name is the text of the variable without the dollar signs that it starts with. -/
  name : ∃ token count, tokens[mark]? = some token ∧
    token.text.toList = List.replicate count '$' ++ property.name.toList
  bare : property.name.toList.head? ≠ some '$'
  isPublic : property.isPublic = true ↔
    ∃ token ∈ tokens.extract span.first mark, token.isWord .publicWord = true
  isProtected : property.isProtected = true ↔
    ∃ token ∈ tokens.extract span.first mark, token.isWord .protectedWord = true
  isPrivate : property.isPrivate = true ↔
    ∃ token ∈ tokens.extract span.first mark, token.isWord .privateWord = true
  isStatic : property.isStatic = true ↔
    ∃ token ∈ tokens.extract span.first mark, token.isWord .staticWord = true
  /-- The documentation is the first comment of its kind. -/
  doc : property.docComment? =
    ((tokens.extract span.first mark).find? (Token.isKind .docComment)).map Token.text

/-- The record of a reported property is read from the tokens before its variable. -/
theorem Property.readFrom {tokens : List Token} {span : Span} {property : Property} {mark : Nat}
    (listed : span ∈ propertySpans tokens) (marked : span.mark? = some mark)
    (described : Property.ofSpan tokens span = .ok property) :
    Property.ReadFrom tokens span mark property := by
  -- The finder marks a variable, and the mark lies within the span.
  have ordered := ((propertySpans_inOrder tokens).bounded span listed).1
  obtain ⟨other, place, start, stop, token, present, isVariable⟩ := propertySpans_mark listed
  obtain rfl := Option.some.inj (marked.symm.trans place)
  -- The record counts from the span's first token: the same token stands there, after the same
  -- head.
  have standing : (span.tokens tokens)[mark - span.first]? = some token := by
    rwa [Span.getElem?_tokens (by omega), Nat.add_sub_cancel' start]
  have head : (span.tokens tokens).take (mark - span.first) = tokens.extract span.first mark := by
    rw [Span.tokens, List.extract_eq_take_drop, List.drop_take, List.take_take,
      Nat.min_eq_left (by omega)]
  simp only [Property.ofSpan, excerpt_eq_ok ordered, marked, Option.getD_some, Option.map_some,
    standing, head, bind, Except.bind] at described
  -- The lines are the one part of the record that could fail, and then there is no record.
  cases bounds : lineBounds (span.tokens tokens) with
  | error fault => simp [bounds] at described
  | ok lines =>
    simp only [bounds, pure, Except.pure, Except.ok.injEq] at described
    subst described
    -- The name is what the run of dollar signs leaves.
    obtain ⟨count, split⟩ := exists_replicate_dropWhile '$' token.text.toList
    exact
      { name := ⟨token, count, present, by simpa using split⟩
        bare := by
          intro dollar
          have front := List.head?_dropWhile_not (· == '$') token.text.toList
          rw [String.toList_ofList] at dollar
          simp [dollar] at front
        isPublic := List.any_eq_true
        isProtected := List.any_eq_true
        isPrivate := List.any_eq_true
        isStatic := List.any_eq_true
        doc := rfl }

/--
Properties are always described, and each one is a statement that declares a variable.

The statement starts with a modifier, and a type at most stands between it and the variable.
It ends on the first semicolon outside nested parts, and its record says what stands in front of the
variable.
-/
theorem reported_properties_declare (tokens : List Token) :
    ∃ found, properties tokens = .ok found ∧
      List.Forall₂ (fun span property => ∃ start mark, span.mark? = some mark ∧
          IsPropertyStatement tokens span start mark ∧
          Property.ReadFrom tokens span mark property)
        (propertySpans tokens) found := by
  -- The records come one a span, so it suffices to read one span.
  obtain ⟨found, described, -⟩ := properties_eq_ok tokens
  refine ⟨found, described, forall₂_of_mapM_eq_ok ?_ described⟩
  intro span listed property read
  obtain ⟨start, mark, marked, statement⟩ := propertySpans_statement listed
  exact ⟨start, mark, marked, statement, Property.readFrom listed marked read⟩

end PhpOutline
