import PhpOutline.Proofs.Method
import PhpOutline.Proofs.Trivia.Spans

/-!
What is read from a span does not depend on trivia.

The names of classes and imports, and the names and modifiers of properties and methods, come from
the bare tokens of a span, and so does the question whether a method can be read.
-/

namespace PhpOutline

/-- The tokens of a bare span are the bare tokens of the span. -/
theorem Span.tokens_bare {tokens : List Token} {span : Span} {place : Nat} {token : Token}
    (present : tokens[place]? = some token) (significant : token.isTrivia = false)
    (inside : place ≤ span.last) (ordered : span.first ≤ span.last) :
    (span.bare tokens).tokens (PhpOutline.bare tokens) = PhpOutline.bare (span.tokens tokens) := by
  -- A token of the list up to the end of the span counts, so the last place can be taken back.
  have counted : bareLast tokens span.last + 1 = bareIndex tokens (span.last + 1) := by
    have later := bareIndex_mono tokens (by omega : place + 1 ≤ span.last + 1)
    rw [bareIndex_succ_of_significant present significant] at later
    rw [bareLast]
    omega
  have start : bareIndex (tokens.take (span.last + 1)) span.first =
      bareIndex tokens span.first := by
    rw [bareIndex, List.take_take, Nat.min_eq_left (by omega), bareIndex]
  rw [Span.tokens, Span.bare, counted, ← bare_take, ← start, ← bare_drop, Span.tokens]

/-- Bare tokens have the text of the tokens that are no trivia. -/
theorem textOf_bare (tokens : List Token) :
    textOf (bare tokens) = textOf (tokens.filter fun token => !token.isTrivia) := by
  simp [textOf, bare, Function.comp_def]

/-- A span of one token has its text. -/
theorem Span.tokens_single {tokens : List Token} {index : Nat} {token : Token}
    (present : tokens[index]? = some token) {span : Span} (starts : span.first = index)
    (stops : span.last = index) : span.tokens tokens = [token] := by
  rw [Span.tokens, starts, stops, List.drop_take, Nat.add_sub_cancel_left,
    drop_eq_cons_of_getElem? present, List.take_succ_cons, List.take_zero]

/-- A class name is one token that may name a class. -/
theorem classNameSpans_single {filter : ClassFilter} {tokens : List Token} {span : Span}
    (listed : span ∈ classNameSpans filter tokens) :
    ∃ token, tokens[span.first]? = some token ∧ token.namesClass = true ∧
      span.last = span.first := by
  -- The reported span is that of the name, which is one token.
  obtain ⟨index, last, inside, reported⟩ := mem_sweep listed
  obtain ⟨keyword, after, offset, ahead, -, -, named, rfl, -⟩ := recognizeClassName_report reported
  obtain ⟨-, -, rest⟩ := Site.ahead_at_eq_cons ahead
  obtain ⟨⟨name, standing, names⟩, -⟩ := nameOffset_spec named
  rw [rest, List.getElem?_drop] at standing
  rw [Site.index_at (Nat.le_of_lt inside)]
  exact ⟨name, standing, names, rfl⟩

/-- The texts of class names are the same. -/
theorem map_text_classNameSpans_bare (filter : ClassFilter) (tokens : List Token) :
    (classNameSpans filter (bare tokens)).map (fun span => span.text (bare tokens)) =
      (classNameSpans filter tokens).map fun span => span.text tokens := by
  -- Each span is one significant token, so its text stays although its place changes.
  rw [classNameSpans_bare, List.map_map]
  refine List.map_congr_left fun span listed => ?_
  obtain ⟨token, present, names, single⟩ := classNameSpans_single listed
  have significant := Structural.namesClass.significant names
  simp only [Function.comp_apply, Span.text]
  rw [Span.tokens_bare present significant (by omega) (by omega),
    Span.tokens_single present rfl single, bare_cons_of_significant significant, bare_nil]
  simp

/-- One more token reads the same without its line. -/
theorem ImportState.read_unlined (state : ImportState) (token : Token) :
    state.read token.unlined = state.read token := by
  simp [ImportState.read]

/-- The names that an import brings in are the same. -/
theorem importedNames_bare (inner : List Token) :
    importedNames (bare inner) = importedNames inner := by
  -- The reader drops trivia first and never looks at a line.
  have kept : (bare inner).filter (fun token => !token.isTrivia) = bare inner := by
    rw [List.filter_eq_self]
    intro token member
    simp [isTrivia_of_mem_bare member]
  simp only [importedNames, kept]
  rw [bare, List.foldl_map]
  simp only [ImportState.read_unlined]

/-- The tokens between the first and the last one stay between them. -/
theorem tail_dropLast_bare {first last : Token} {inner : List Token}
    (starts : first.isTrivia = false) (stops : last.isTrivia = false) :
    (bare (first :: (inner ++ [last]))).tail.dropLast = bare inner := by
  rw [bare_cons_of_significant starts, bare_append, bare_cons_of_significant stops, bare_nil,
    List.tail_cons, List.dropLast_concat]

/-- A span of two tokens or more has a first and a last token. -/
theorem Span.tokens_eq_cons {tokens : List Token} {span : Span} {first last : Token}
    (apart : span.first < span.last) (starts : tokens[span.first]? = some first)
    (stops : tokens[span.last]? = some last) :
    ∃ inner, span.tokens tokens = first :: (inner ++ [last]) := by
  -- The first and the last token are two, so they can be cut off one after the other.
  have short : span.first ≤ (tokens.take span.last).length := by
    rw [List.length_take, Nat.min_eq_left (Nat.le_of_lt (List.getElem?_eq_some_iff.mp stops).1)]
    exact Nat.le_of_lt apart
  have kept : (tokens.take span.last)[span.first]? = some first := by
    rw [List.getElem?_take_of_lt apart, starts]
  refine ⟨(tokens.take span.last).drop (span.first + 1), ?_⟩
  rw [Span.tokens, List.take_add_one, stops, Option.toList_some,
    List.drop_append_of_le_length short, drop_eq_cons_of_getElem? kept, List.cons_append]

/-- The imported names are the same, in source order. -/
theorem writtenImports_bare (tokens : List Token) :
    writtenImports (bare tokens) = writtenImports tokens := by
  rw [writtenImports, writtenImports, importSpans_bare, List.flatMap_def, List.flatMap_def,
    List.map_map]
  congr 1
  refine List.map_congr_left fun span listed => ?_
  rw [Function.comp_apply]
  -- What is read of an import lies between its keyword and its semicolon, and both are bare tokens.
  obtain ⟨apart, ⟨keyword, present, keyed⟩, semicolon⟩ := importSpans_ends listed
  obtain ⟨inner, shape⟩ := Span.tokens_eq_cons apart present semicolon
  rw [Span.tokens_bare semicolon rfl (Nat.le_refl _) (Nat.le_of_lt apart), shape,
    tail_dropLast_bare ((Structural.word .useWord).significant keyed) rfl, importedNames_bare,
    List.tail_cons, List.dropLast_concat]

/-- The imported names are the same, sorted or not. -/
theorem imports_bare (sorted : Bool) (tokens : List Token) :
    imports sorted (bare tokens) = imports sorted tokens := by
  rw [imports, imports, writtenImports_bare]

/-- What a structural test finds among tokens it finds among the bare ones. -/
theorem any_bare {test : Token → Bool} (structural : Structural test) (tokens : List Token) :
    (bare tokens).any test = tokens.any test := by
  -- Trivia fails the test, so leaving it out leaves out no token that passes.
  induction tokens with
  | nil => rfl
  | cons token rest ih =>
    cases trivia : token.isTrivia with
    | true =>
      rw [bare_cons_of_trivia trivia, ih, List.any_cons, structural.trivia token trivia,
        Bool.false_or]
    | false =>
      rw [bare_cons_of_significant trivia, List.any_cons, List.any_cons, structural.unlined, ih]

/-- The name of a property and its modifiers. -/
def Property.signature (property : Property) : String × Bool × Bool × Bool × Bool :=
  -- Comments, texts and lines are left out.
  (property.name, property.isPublic, property.isProtected, property.isPrivate, property.isStatic)

/-- The signature of a property with the given tokens and variable. -/
def propertySignature (declaration : List Token) (variableOffset : Nat) :
    String × Bool × Bool × Bool × Bool :=
  -- The modifiers stand before the variable.
  let head := declaration.take variableOffset
  let written := (declaration[variableOffset]?.map Token.text).getD ""
  (String.ofList (written.toList.dropWhile (· == '$')), head.any (Token.isWord .publicWord),
    head.any (Token.isWord .protectedWord), head.any (Token.isWord .privateWord),
    head.any (Token.isWord .staticWord))

/-- The signature of a described property is read from its declaration. -/
theorem Property.signature_ofSpan {tokens : List Token} {span : Span} {property : Property}
    (ordered : span.first ≤ span.last) (described : Property.ofSpan tokens span = .ok property) :
    property.signature =
      propertySignature (span.tokens tokens) (span.mark?.getD span.first - span.first) := by
  -- The record was made, so its lines were there, and the signature does not depend on them.
  simp only [Property.ofSpan, excerpt_eq_ok ordered, bind, Except.bind] at described
  split at described
  · simp at described
  · obtain rfl := Except.ok.inj described
    rfl

/-- The signature of a property is read from bare tokens alike. -/
theorem propertySignature_bare {declaration : List Token} {variableOffset : Nat} {token : Token}
    (present : declaration[variableOffset]? = some token) (significant : token.isTrivia = false) :
    propertySignature (bare declaration) (bareIndex declaration variableOffset) =
      propertySignature declaration variableOffset := by
  simp only [propertySignature, ← bare_take, any_bare (Structural.word _),
    getElem?_bare present significant, present, Option.map_some, Token.text_unlined]

/-- What is seen of the results of steps that succeed is seen of their items. -/
theorem map_eq_map_of_ok {α β γ ε : Type} {f : α → Except ε β} {seen : β → γ} {shown : α → γ}
    {items : List α} {results : List β} (succeeded : items.map f = results.map .ok)
    (agrees : ∀ item ∈ items, ∀ result, f item = .ok result → seen result = shown item) :
    results.map seen = items.map shown := by
  -- Results and items have the same length, and are compared one by one.
  induction items generalizing results with
  | nil =>
    rw [List.map_nil, eq_comm, List.map_eq_nil_iff] at succeeded
    simp [succeeded]
  | cons item items ih =>
    cases results with
    | nil => simp at succeeded
    | cons result results =>
      obtain ⟨first, later⟩ := List.cons.inj succeeded
      rw [List.map_cons, List.map_cons, agrees item (by simp) result first,
        ih later fun other member => agrees other (by simp [member])]

/-- The signature of a span is that of the bare span. -/
theorem propertySpans_signature_bare {tokens : List Token} {span : Span}
    (listed : span ∈ propertySpans tokens) :
    propertySignature ((span.bare tokens).tokens (bare tokens))
        ((span.bare tokens).mark?.getD (span.bare tokens).first - (span.bare tokens).first) =
      propertySignature (span.tokens tokens) (span.mark?.getD span.first - span.first) := by
  obtain ⟨mark, marked, start, stop, token, present, typed⟩ := propertySpans_mark listed
  have significant := Structural.variableName.significant typed
  have standing : (span.tokens tokens)[mark - span.first]? = some token := by
    rw [Span.getElem?_tokens (by omega), Nat.add_sub_cancel' start, present]
  -- The variable is as many bare tokens behind the start of the span as it is in the declaration.
  have place : bareIndex tokens mark - bareIndex tokens span.first =
      bareIndex (span.tokens tokens) (mark - span.first) := by
    have split := bareIndex_add tokens span.first (mark - span.first)
    have cut : bareIndex (span.tokens tokens) (mark - span.first) =
        bareIndex (tokens.drop span.first) (mark - span.first) := by
      rw [bareIndex, bareIndex, Span.tokens, List.drop_take, List.take_take,
        Nat.min_eq_left (by omega)]
    rw [Nat.add_sub_cancel' start] at split
    omega
  rw [Span.tokens_bare present significant stop (by omega), marked]
  simp only [Span.bare, marked, Option.map_some, Option.getD_some, place]
  exact propertySignature_bare standing significant

/-- The signatures of the properties are the same. -/
theorem properties_bare (tokens : List Token) :
    (properties (bare tokens)).map (List.map Property.signature) =
      (properties tokens).map (List.map Property.signature) := by
  -- Both descriptions succeed, with one record for each span.
  have seen : ∀ (list : List Token) (found : List Property),
      (propertySpans list).map (Property.ofSpan list) = found.map .ok →
      found.map Property.signature = (propertySpans list).map fun span =>
        propertySignature (span.tokens list) (span.mark?.getD span.first - span.first) := by
    intro list found succeeded
    refine map_eq_map_of_ok succeeded fun span listed property described => ?_
    exact Property.signature_ofSpan ((propertySpans_inOrder list).bounded span listed).1 described
  obtain ⟨found, described, succeeded⟩ := properties_eq_ok tokens
  obtain ⟨other, redescribed, again⟩ := properties_eq_ok (bare tokens)
  rw [described, redescribed, Except.map, Except.map, seen _ _ succeeded, seen _ _ again,
    propertySpans_bare, List.map_map]
  congr 1
  exact List.map_congr_left fun span listed => propertySpans_signature_bare listed

/-- The name, visibility and modifiers of a method. -/
def Method.signature (method : Method) : String × Visibility × Bool × Bool × Bool :=
  -- Comments, texts, lines and indices are left out.
  (method.name, method.visibility, method.isAbstract, method.isFinal, method.isStatic)

/-- The visibility that the tokens in front of a method declare. -/
def declaredVisibility? (lead : List Token) : Option Visibility :=
  -- The first one counts.
  lead.findSome? fun token => token.kind?.bind Visibility.ofKind?

/-- The signature of a method with the given tokens in front and the given name. -/
def methodSignature (lead : List Token) (named : Token) :
    String × Visibility × Bool × Bool × Bool :=
  -- Without a declared visibility a method is public.
  (named.text, (declaredVisibility? lead).getD .publicAccess, lead.any (Token.isWord .abstractWord),
    lead.any (Token.isWord .finalWord), lead.any (Token.isWord .staticWord))

/-- A method that can be read has the signature of its declaration. -/
theorem Method.signature_ofDeclaration {firstIndex : Nat} {lead skipped rest : List Token}
    {keyword named : Token}
    (leading : ∀ token ∈ lead, token.leads Token.isMethodModifier = true)
    (keyed : keyword.isWord .functionWord = true)
    (skips : ∀ token ∈ skipped, token.precedesName = true) (names : named.namesFunction = true) :
    (Method.ofDeclaration firstIndex (lead ++ keyword :: (skipped ++ named :: rest))).toOption.map
        Method.signature =
      (readParts {} (lead.length + 1 + skipped.length + 1) rest).toOption.map
        fun _ => methodSignature lead named := by
  obtain ⟨line, started⟩ := exists_firstLine lead keyed
  unfold Token.startsMethod at started
  -- The parts in front are found by their tests, so only the reading of the rest can fail.
  simp only [Method.ofDeclaration, takeWhile_lead leading keyed, List.drop_left,
    takeWhile_skipped skips names, names, started]
  cases readParts {} (lead.length + 1 + skipped.length + 1) rest <;>
    simp [bind, Except.bind, Except.toOption, Method.signature, methodSignature,
      declaredVisibility?]

/-- Parts of which the same ones are still missing. -/
structure MethodParts.Alike (parts others : MethodParts) : Prop where
  parameters : others.parameters?.isNone = parts.parameters?.isNone
  body : others.body?.isNone = parts.body?.isNone

/-- Where the same parts are missing, the same token opens the next one. -/
theorem MethodParts.Alike.opens? {parts others : MethodParts} (alike : parts.Alike others)
    (token : Token) : others.opens? token.unlined = parts.opens? token := by
  simp [MethodParts.opens?, alike.parameters, alike.body]

/-- After the same part has been read, the same ones are missing. -/
theorem MethodParts.Alike.add {parts others : MethodParts} (alike : parts.Alike others)
    (delimiter : Delimiter) (text other : String) :
    (parts.add delimiter text).Alike (others.add delimiter other) := by
  cases delimiter <;> constructor <;> simp [MethodParts.add, alike.parameters, alike.body]

/-- Whether the parts of a method can be read does not depend on trivia. -/
theorem readParts_bare {parts others : MethodParts} (alike : parts.Alike others)
    (index place : Nat) (tokens : List Token) :
    (readParts others place (bare tokens)).toOption.isSome =
      (readParts parts index tokens).toOption.isSome := by
  fun_induction readParts parts index tokens generalizing others place with
  | case1 => simp [readParts, Except.toOption]
  | case2 parts index token rest unopened ih =>
    cases trivia : token.isTrivia with
    -- Trivia opens no part, so the reader goes on to the next token.
    | true => rw [bare_cons_of_trivia trivia, ih alike place]
    | false =>
      rw [bare_cons_of_significant trivia, readParts, alike.opens?, unopened]
      exact ih alike (place + 1)
  -- A part that is never closed stays so among the bare tokens.
  | case3 parts index token rest delimiter opened unclosed =>
    obtain ⟨rfl, -⟩ := MethodParts.opens?_eq_some opened
    have walked := closerOffset?_bare delimiter (.symbol delimiter.opener :: rest)
    rw [bare_cons_of_significant rfl] at walked ⊢
    rw [readParts, alike.opens?, opened]
    simp only [walked, unclosed, Option.map_none]
    rfl
  | case4 parts index token rest delimiter opened offset closed ih =>
    -- The closer is a bare token, so both readers go on behind it.
    obtain ⟨rfl, -⟩ := MethodParts.opens?_eq_some opened
    have walked := closerOffset?_bare delimiter (.symbol delimiter.opener :: rest)
    rw [bare_cons_of_significant rfl] at walked ⊢
    rw [readParts, alike.opens?, opened]
    simp only [walked, closed, Option.map_some, bare_drop_closer closed]
    exact ih (alike.add delimiter _ _) _

/-- The declared visibility is the same. -/
theorem declaredVisibility?_bare (lead : List Token) :
    declaredVisibility? (bare lead) = declaredVisibility? lead := by
  simp only [declaredVisibility?]
  induction lead with
  | nil => rfl
  | cons token rest ih =>
    cases trivia : token.isTrivia with
    | true =>
      -- Trivia declares no visibility.
      have hidden : token.kind?.bind Visibility.ofKind? = none := by
        cases token with
        | symbol char => rfl
        | typed kind text line =>
          cases kind <;> simp_all [Token.isTrivia, Token.kind?, Kind.isComment, Visibility.ofKind?]
      rw [bare_cons_of_trivia trivia, ih, List.findSome?_cons, hidden]
    | false =>
      rw [bare_cons_of_significant trivia, List.findSome?_cons, List.findSome?_cons, ih,
        Token.kind?_unlined]

/-- The signature of a method is read from bare tokens alike. -/
theorem methodSignature_bare (lead : List Token) (named : Token) :
    methodSignature (bare lead) named.unlined = methodSignature lead named := by
  simp only [methodSignature, declaredVisibility?_bare, any_bare (Structural.word _),
    Token.text_unlined]

/-- A test of all tokens that does not look at lines holds of the bare ones. -/
theorem forall_mem_bare {test : Token → Bool}
    (unlined : ∀ token : Token, test token.unlined = test token) {tokens : List Token}
    (holds : ∀ token ∈ tokens, test token = true) : ∀ token ∈ bare tokens, test token = true := by
  -- A bare token is one of the list but for its line.
  intro token member
  obtain ⟨original, listed, -, rfl⟩ := exists_of_mem_bare member
  rw [unlined, holds original listed]

/-- A method reads the same from bare tokens, up to its texts, lines and indices. -/
theorem Method.ofDeclaration_bare {tokens : List Token} {span : Span}
    (listed : span ∈ methodSpans tokens) (firstIndex : Nat) :
    (Method.ofDeclaration firstIndex (bare (span.tokens tokens))).toOption.map Method.signature =
      (Method.ofDeclaration span.first (span.tokens tokens)).toOption.map Method.signature := by
  obtain ⟨lead, keyword, skipped, named, rest, shape, -, leading, keyed, skips, names⟩ :=
    methodSpans_shape listed
  have bared : bare (span.tokens tokens) =
      bare lead ++ keyword.unlined :: (bare skipped ++ named.unlined :: bare rest) := by
    have kept := (Structural.word .functionWord).significant keyed
    rw [shape, bare_append, bare_cons_of_significant kept, bare_append,
      bare_cons_of_significant (Structural.namesFunction.significant names)]
  -- The parts of the declaration keep their tests without trivia and lines.
  have leads := forall_mem_bare
    (fun token => by simp [Token.leads, Token.isMethodModifier_unlined]) leading
  have passes := forall_mem_bare (fun token => by simp [Token.precedesName]) skips
  rw [bared, shape, Method.signature_ofDeclaration leading keyed skips names,
    Method.signature_ofDeclaration leads (by simpa using keyed) passes (by simpa using names),
    methodSignature_bare]
  -- What is left is to read the parts on both sides, and each side fails with the other.
  have untouched : MethodParts.Alike {} {} := ⟨rfl, rfl⟩
  have readable := readParts_bare untouched (lead.length + 1 + skipped.length + 1)
    ((bare lead).length + 1 + (bare skipped).length + 1) rest
  revert readable
  generalize (readParts {} _ (bare rest)).toOption = other
  generalize (readParts {} _ rest).toOption = own
  cases other <;> cases own <;> simp

/-- A traversal whose steps look alike looks alike as a whole. -/
theorem mapM_seen {α β γ ε : Type} {f g : α → Except ε β} {seen : β → γ} {items : List α}
    (agrees : ∀ item ∈ items, (f item).toOption.map seen = (g item).toOption.map seen) :
    (items.mapM f).toOption.map (List.map seen) = (items.mapM g).toOption.map (List.map seen) := by
  -- A traversal fails at the first item that fails, and that is the same one on both sides.
  induction items with
  | nil => rfl
  | cons item items ih =>
    have first := agrees item (by simp)
    have later := ih fun other member => agrees other (by simp [member])
    rw [List.mapM_cons, List.mapM_cons]
    cases own : f item <;> cases other : g item <;>
      cases rest : items.mapM f <;> cases others : items.mapM g <;>
      simp_all [bind, Except.bind, pure, Except.pure, Except.toOption]

/-- The signatures of the methods are the same, and describing them fails alike. -/
theorem methods_bare (tokens : List Token) :
    (methods (bare tokens)).toOption.map (List.map Method.signature) =
      (methods tokens).toOption.map (List.map Method.signature) := by
  -- Moving the index of a fault does not turn a failure into a success.
  have moved : ∀ (read : Except Fault Method) (offset : Nat),
      (read.mapError (Fault.shift offset)).toOption = read.toOption := by
    intro read offset
    cases read <;> rfl
  rw [methods, methods, methodSpans_bare, List.mapM_map]
  refine mapM_seen fun span listed => ?_
  obtain ⟨mark, keyword, _, _, -, last, present, keyed, -⟩ := methodSpans_declaration listed
  rw [Function.comp_apply, moved, moved, Span.tokens_bare present
    ((Structural.word .functionWord).significant keyed) (by omega)
    ((methodSpans_inOrder tokens).bounded span listed).1]
  exact Method.ofDeclaration_bare listed _

end PhpOutline
