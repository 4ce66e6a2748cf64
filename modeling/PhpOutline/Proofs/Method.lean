import PhpOutline.Proofs.Property

/-!
Methods that were recognized are read again without surprise.

The recognizer and the reader of a declaration look for its keyword and name in different ways.
The tokens of every span have one shape, and on that shape both find the same.
All that is left to fail is a parameter list or a body that is never closed.
-/

namespace PhpOutline

/-- A list falls apart around the token at an index. -/
theorem eq_append_cons_of_getElem? {tokens : List Token} {index : Nat} {token : Token}
    (present : tokens[index]? = some token) :
    tokens = tokens.take index ++ token :: tokens.drop (index + 1) := by
  -- The tokens from the index on start with the one at the index.
  calc tokens = tokens.take index ++ tokens.drop index := (List.take_append_drop index tokens).symm
    _ = tokens.take index ++ token :: tokens.drop (index + 1) := by
        rw [drop_eq_cons_of_getElem? present]

/-- Neither trivia nor a modifier is the keyword of a function. -/
theorem Token.isWord_functionWord_of_leads {token : Token}
    (leading : token.leads Token.isMethodModifier = true) : token.isWord .functionWord = false := by
  -- A function keyword fails all the tests that let a token lead.
  cases keyed : token.isWord .functionWord with
  | false => rfl
  | true =>
    obtain ⟨text, line, rfl⟩ := Token.isWord_iff.mp keyed
    have refused : (Token.typed (.word .functionWord) text line).leads Token.isMethodModifier =
        false :=
      rfl
    simp [refused] at leading

/-- A token that names a function does not precede a name. -/
theorem Token.precedesName_of_namesFunction {token : Token} (names : token.namesFunction = true) :
    token.precedesName = false := by
  -- A name is an identifier or a reserved word, and neither is trivia nor a symbol.
  cases token with
  | symbol char => simp [Token.namesFunction] at names
  | typed kind text line =>
    cases kind <;> simp_all [Token.namesFunction, Token.precedesName, Token.isTrivia,
      Token.isSymbol, Kind.isReserved, Kind.isComment]

/-- The name of a function stands before the parenthesis of its parameters. -/
theorem functionNameOffset_lt {after : List Token} {name parameters : Nat}
    (named : functionNameOffset after = some name)
    (opened : after.findIdx? (Token.isSymbol '(') = some parameters) : name < parameters := by
  obtain ⟨⟨token, present, names⟩, before⟩ := nameOffset_spec named
  rw [findIdx?_eq_findFrom] at opened
  obtain ⟨-, ⟨parenthesis, standing, opens⟩, -⟩ := findFrom_spec opened
  obtain rfl := Token.isSymbol_iff.mp opens
  -- A parenthesis is neither the name nor anything that may come before it.
  rcases Nat.lt_trichotomy name parameters with earlier | same | later
  · exact earlier
  · subst same
    rw [present, Option.some.injEq] at standing
    subst standing
    simp [Token.namesFunction] at names
  · rcases before parameters _ later standing with trivia | ampersand
    · simp [Token.isTrivia] at trivia
    · simp at ampersand

/--
The tokens of every method have one shape.

Comments and modifiers lead up to the keyword, and trivia and ampersands up to the name.
-/
theorem methodSpans_shape {tokens : List Token} {span : Span} (listed : span ∈ methodSpans tokens) :
    ∃ lead keyword skipped named rest,
      span.tokens tokens = lead ++ keyword :: (skipped ++ named :: rest) ∧
      span.mark? = some (span.first + lead.length) ∧
      (∀ token ∈ lead, token.leads Token.isMethodModifier = true) ∧
      keyword.isWord .functionWord = true ∧
      (∀ token ∈ skipped, token.precedesName = true) ∧ named.namesFunction = true := by
  obtain ⟨index, last, inside, reported⟩ := mem_sweep listed
  obtain ⟨keyword, after, name, stop, ahead, keyed, -, named, ended, rfl, -⟩ :=
    recognizeMethod_report reported
  obtain ⟨-, present, rest⟩ := Site.ahead_at_eq_cons ahead
  obtain ⟨parameters, opened, reached, -, -⟩ := declarationEnd_spec ended
  have before := functionNameOffset_lt named opened
  obtain ⟨⟨token, standing, names⟩, between⟩ := nameOffset_spec named
  rw [Site.index_at (Nat.le_of_lt inside)]
  generalize width : leadingLength Token.isMethodModifier (Site.at tokens index).behind = leading
  -- The name comes before the end, so cutting the declaration off there keeps the name.
  have cut : (after.take (stop + 1))[name]? = some token := by
    rw [List.getElem?_take_of_lt (by omega), standing]
  refine ⟨(tokens.take index).drop (index - leading), keyword, (after.take (stop + 1)).take name,
    token, (after.take (stop + 1)).drop (name + 1), ?_, ?_, ?_, keyed, ?_, names⟩
  · rw [← eq_append_cons_of_getElem? cut, Span.tokens]
    have split : tokens.take (index + 1 + stop + 1) =
        tokens.take index ++ keyword :: after.take (stop + 1) := by
      rw [show index + 1 + stop + 1 = index + (stop + 1 + 1) by omega, List.take_add]
      rw [show tokens.drop index = keyword :: after from ahead, List.take_succ_cons]
    rw [split, List.drop_append_of_le_length (by simp; omega)]
  · simp only [List.length_drop, List.length_take, Option.some.injEq]
    omega
  · -- The leading part is the run that was counted behind the keyword.
    intro leader member
    obtain ⟨position, place⟩ := List.getElem?_of_mem member
    have near : position < index - (index - leading) := by
      have short := (List.getElem?_eq_some_iff.mp place).1
      simp only [List.length_drop, List.length_take] at short
      omega
    rw [List.getElem?_drop, List.getElem?_take_of_lt (by omega)] at place
    exact leads_of_leadingLength (Nat.le_of_lt inside) (by omega) (by omega) place
  · intro skipped member
    obtain ⟨position, place⟩ := List.getElem?_of_mem member
    have near : position < name := by
      have short := (List.getElem?_eq_some_iff.mp place).1
      simp only [List.length_take] at short
      omega
    rw [List.getElem?_take_of_lt near, List.getElem?_take_of_lt (by omega)] at place
    rcases between position skipped near place with trivia | ampersand
    · simp [Token.precedesName, trivia]
    · simp [Token.precedesName, Token.isSymbol_iff.mpr ampersand]

/-- A part that is still missing is opened by the opener of its pair. -/
theorem MethodParts.opens?_eq_some {parts : MethodParts} {token : Token} {delimiter : Delimiter}
    (opened : parts.opens? token = some delimiter) :
    token = .symbol delimiter.opener ∧ (delimiter = .round ∨ delimiter = .curly) := by
  unfold MethodParts.opens? at opened
  split at opened
  · -- The parameters are still missing, and a parenthesis opens.
    rename_i seen
    obtain rfl := Option.some.inj opened
    simp only [Bool.and_eq_true] at seen
    exact ⟨Token.isSymbol_iff.mp seen.2, .inl rfl⟩
  · split at opened
    · -- The body is still missing, and a brace opens.
      rename_i seen
      obtain rfl := Option.some.inj opened
      simp only [Bool.and_eq_true] at seen
      exact ⟨Token.isSymbol_iff.mp seen.2, .inr rfl⟩
    · simp at opened

/-- Reading the parts fails only at a parenthesis or brace that is never closed. -/
theorem readParts_eq_error {parts : MethodParts} {index : Nat} {tokens : List Token} {fault : Fault}
    (failed : readParts parts index tokens = .error fault) :
    ∃ offset delimiter, fault = .unclosed (index + offset) delimiter ∧
      (delimiter = .round ∨ delimiter = .curly) ∧
      tokens[offset]? = some (.symbol delimiter.opener) ∧
      closerOffset? delimiter (tokens.drop offset) = none := by
  -- A part that is closed is passed over whole, and every other token on its own.
  fun_induction readParts parts index tokens with
  | case1 => simp at failed
  | case2 parts index token rest _ ih =>
    obtain ⟨offset, delimiter, rfl, paired, present, unclosed⟩ := ih failed
    refine ⟨offset + 1, delimiter, ?_, paired, ?_, ?_⟩
    · rw [show index + (offset + 1) = index + 1 + offset by omega]
    · simpa using present
    · simpa using unclosed
  | case3 parts index token rest delimiter opened unclosed =>
    obtain ⟨rfl, paired⟩ := MethodParts.opens?_eq_some opened
    obtain rfl := Except.error.inj failed
    exact ⟨0, delimiter, rfl, paired, by simp, by simpa using unclosed⟩
  | case4 parts index token rest delimiter _ length _ ih =>
    obtain ⟨offset, other, rfl, paired, present, unclosed⟩ := ih failed
    refine ⟨length + offset + 1, other, ?_, paired, ?_, ?_⟩
    · rw [show index + (length + offset + 1) = index + length + 1 + offset by omega]
    · rw [List.getElem?_drop] at present
      simpa using present
    · rw [List.drop_drop] at unclosed
      simpa using unclosed

/-- Whether a token is one whose line may start a method without visibility. -/
def Token.startsMethod (token : Token) : Bool :=
  -- The keyword counts, so every declaration has such a token.
  token.isWord .abstractWord || token.isWord .finalWord || token.isWord .staticWord
    || token.isWord .functionWord

/-- The keyword of a function has a line, so a declaration has a first one. -/
theorem exists_line_startsMethod (lead : List Token) {keyword : Token}
    (keyed : keyword.isWord .functionWord = true) :
    ∃ line, ((lead ++ [keyword]).find? Token.startsMethod).bind Token.line? = some line := by
  have found : ((lead ++ [keyword]).find? Token.startsMethod).isSome = true := by
    rw [List.find?_isSome]
    exact ⟨keyword, by simp, by simp [Token.startsMethod, keyed]⟩
  obtain ⟨token, located⟩ := Option.isSome_iff_exists.mp found
  -- Only a typed token passes the test, and it carries its line.
  have starts := List.find?_some located
  cases token with
  | symbol char => simp [Token.startsMethod, Token.isWord, Token.isKind] at starts
  | typed kind text line => exact ⟨line, by rw [located, Option.bind_some, Token.line?]⟩

section

variable {lead skipped rest : List Token} {keyword named : Token}

/-- Up to the keyword of a function stand the comments and modifiers that lead. -/
theorem takeWhile_lead (leading : ∀ token ∈ lead, token.leads Token.isMethodModifier = true)
    (keyed : keyword.isWord .functionWord = true) :
    (lead ++ keyword :: rest).takeWhile (fun token => !token.isWord .functionWord) = lead := by
  -- None of the leading tokens is the keyword, so the run ends at the keyword itself.
  rw [List.takeWhile_append_of_pos, List.takeWhile_cons_of_neg, List.append_nil]
  · simp [keyed]
  · intro token member
    simp [Token.isWord_functionWord_of_leads (leading token member)]

/-- Up to the name of a function stand trivia and ampersands. -/
theorem takeWhile_skipped (skips : ∀ token ∈ skipped, token.precedesName = true)
    (names : named.namesFunction = true) :
    (skipped ++ named :: rest).takeWhile Token.precedesName = skipped := by
  rw [List.takeWhile_append_of_pos skips, List.takeWhile_cons_of_neg, List.append_nil]
  simp [Token.precedesName_of_namesFunction names]

/-- Whatever the visibility, some line is found for a declaration to start on. -/
theorem exists_firstLine (lead : List Token) (keyed : keyword.isWord .functionWord = true) :
    ∃ line, (((lead ++ [keyword]).find? fun token =>
        (token.kind?.bind Visibility.ofKind?).isSome).bind Token.line? <|>
      ((lead ++ [keyword]).find? Token.startsMethod).bind Token.line?) = some line := by
  -- A modifier has a line if there is one, and otherwise the keyword has one.
  obtain ⟨line, other⟩ := exists_line_startsMethod lead keyed
  rw [other]
  cases ((lead ++ [keyword]).find? fun token => (token.kind?.bind Visibility.ofKind?).isSome).bind
      Token.line? with
  | none => exact ⟨line, rfl⟩
  | some visible => exact ⟨visible, rfl⟩

/-- Reading a declaration of the shape of a method fails only where its parts do. -/
theorem Method.ofDeclaration_eq_error_iff {firstIndex : Nat} {fault : Fault}
    (leading : ∀ token ∈ lead, token.leads Token.isMethodModifier = true)
    (keyed : keyword.isWord .functionWord = true)
    (skips : ∀ token ∈ skipped, token.precedesName = true) (names : named.namesFunction = true) :
    Method.ofDeclaration firstIndex (lead ++ keyword :: (skipped ++ named :: rest)) = .error fault ↔
      readParts {} (lead.length + 1 + skipped.length + 1) rest = .error fault := by
  -- Keyword, name and line are there, so nothing but the reading of the parts can fail.
  obtain ⟨line, started⟩ := exists_firstLine lead keyed
  unfold Token.startsMethod at started
  simp only [Method.ofDeclaration, takeWhile_lead leading keyed, List.drop_left,
    takeWhile_skipped skips names, names, started]
  cases readParts {} (lead.length + 1 + skipped.length + 1) rest <;> simp [bind, Except.bind]

end

/--
Reading the span of a method fails only at an opener in it that is never closed in the span.

The cause of failure is seen from the whole list.
-/
theorem Method.ofDeclaration_eq_error {tokens : List Token} {span : Span} {inner : Fault}
    (listed : span ∈ methodSpans tokens)
    (raised : Method.ofDeclaration span.first (span.tokens tokens) = .error inner) :
    ∃ index delimiter, inner.shift span.first = .unclosed index delimiter ∧
      (delimiter = .round ∨ delimiter = .curly) ∧
      tokens[index]? = some (.symbol delimiter.opener) ∧
      span.first ≤ index ∧ index ≤ span.last ∧
      closerOffset? delimiter ((span.tokens tokens).drop (index - span.first)) = none := by
  have bounded := (methodSpans_inOrder tokens).bounded span listed
  obtain ⟨lead, keyword, skipped, named, rest, shape, -, leading, keyed, skips, names⟩ :=
    methodSpans_shape listed
  rw [shape, Method.ofDeclaration_eq_error_iff leading keyed skips names] at raised
  obtain ⟨offset, delimiter, rfl, paired, present, unclosed⟩ := readParts_eq_error raised
  -- The parts start right after the name.
  have place : (span.tokens tokens).drop (lead.length + 1 + skipped.length + 1) = rest := by
    rw [shape, show lead ++ keyword :: (skipped ++ named :: rest) =
      (lead ++ keyword :: (skipped ++ [named])) ++ rest by simp]
    exact List.drop_left' (by simp; omega)
  generalize lead.length + 1 + skipped.length + 1 = start at *
  rw [← place, List.getElem?_drop] at present
  rw [← place, List.drop_drop] at unclosed
  have inside : start + offset < span.last + 1 - span.first := by
    rw [← Span.length_tokens bounded.2]
    exact (List.getElem?_eq_some_iff.mp present).1
  rw [Span.getElem?_tokens (by omega)] at present
  refine ⟨span.first + (start + offset), delimiter, ?_, paired, present, by omega, by omega, ?_⟩
  · rw [Fault.shift, Nat.add_comm]
  · rwa [Nat.add_sub_cancel_left]

/-- Describing methods fails only where the reading of one of their spans does. -/
theorem exists_declaration_of_methods_eq_error {tokens : List Token} {fault : Fault}
    (failed : methods tokens = .error fault) :
    ∃ span ∈ methodSpans tokens, ∃ inner,
      Method.ofDeclaration span.first (span.tokens tokens) = .error inner ∧
        inner.shift span.first = fault := by
  -- The traversal fails at one span, and the fault is moved by the start of that span.
  obtain ⟨span, listed, broken⟩ := exists_of_mapM_eq_error failed
  cases read : Method.ofDeclaration span.first (span.tokens tokens) with
  | ok method => simp [read, Except.mapError] at broken
  | error inner => exact ⟨span, listed, inner, read, by simpa [read, Except.mapError] using broken⟩

/--
Describing methods fails only at an opener inside a method that is never closed in its span.

The reading of a declaration never misses its keyword, its name or its first line.
-/
theorem methods_eq_error {tokens : List Token} {fault : Fault}
    (failed : methods tokens = .error fault) :
    ∃ index delimiter, ∃ span ∈ methodSpans tokens, fault = .unclosed index delimiter ∧
      (delimiter = .round ∨ delimiter = .curly) ∧
      tokens[index]? = some (.symbol delimiter.opener) ∧
      span.first ≤ index ∧ index ≤ span.last ∧
      closerOffset? delimiter ((span.tokens tokens).drop (index - span.first)) = none := by
  -- The fault is that of one declaration, seen from the start of the list.
  obtain ⟨span, listed, inner, raised, rfl⟩ := exists_declaration_of_methods_eq_error failed
  obtain ⟨index, delimiter, seen, located⟩ := Method.ofDeclaration_eq_error listed raised
  exact ⟨index, delimiter, span, listed, seen, located⟩

end PhpOutline
