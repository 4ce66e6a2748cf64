import Mathlib.Data.List.TakeWhile
import PhpOutline.Proofs.Reports

/-!
The spans of every sweep lie in the list and come one after the other.

Six recognizers never look back, so their spans start where the sweep stands or later.
Properties and methods reach back over comments and modifiers, but end on tokens that are neither.
-/

namespace PhpOutline

/-- A reading that was moved found something exactly when it did before. -/
theorem Reading.shift_eq_found_iff {reading : Reading} {count offset : Nat} :
    reading.shift count = .found offset ↔
      ∃ further, reading = .found further ∧ offset = further + count := by
  cases reading <;> simp [Reading.shift, eq_comm]

/-- A reading of the variable stops at one, and only a type and modifiers stand before it. -/
theorem variableReading_spec {tokens : List Token} {offset : Nat}
    (read : variableReading tokens = .found offset) :
    (∃ token, tokens[offset]? = some token ∧ token.isKind .variableName = true) ∧
      ∀ index token, index < offset → tokens[index]? = some token →
        token.precedesVariable = true := by
  induction tokens generalizing offset with
  | nil => simp [variableReading] at read
  | cons first rest ih =>
    simp only [variableReading] at read
    split at read
    · -- The variable stands here, and nothing stands before it.
      rename_i typed
      obtain rfl := Reading.found.inj read
      exact ⟨⟨first, by simp, typed⟩, by simp⟩
    · split at read
      · -- A token that may precede the variable comes to those between.
        rename_i precedes
        obtain ⟨further, later, rfl⟩ := Reading.shift_eq_found_iff.mp read
        obtain ⟨reached, between⟩ := ih later
        refine ⟨by simpa using reached, ?_⟩
        intro index token earlier present
        cases index with
        | zero => simp_all
        | succ index => exact between index token (by omega) (by simpa using present)
      · simp at read

/-- A reading of the end of a property stops at a semicolon. -/
theorem semicolonReading_spec {tokens : List Token} {offset : Nat}
    (read : semicolonReading tokens = .found offset) : tokens[offset]? = some (.symbol ';') := by
  -- A nested part is leapt over whole, so the offset after it moves by its length.
  fun_induction semicolonReading tokens generalizing offset with
  | case1 => simp at read
  | case2 token rest semicolon =>
    obtain rfl := Reading.found.inj read
    simpa using Token.isSymbol_iff.mp semicolon
  | case3 token rest _ delimiter _ length _ ih =>
    obtain ⟨further, later, rfl⟩ := Reading.shift_eq_found_iff.mp read
    have reached := ih later
    rw [List.getElem?_drop, Nat.add_comm] at reached
    rwa [← Nat.add_assoc, List.getElem?_cons_succ]
  | case4 => simp at read
  | case5 => simp at read
  | case6 token rest _ _ _ ih =>
    obtain ⟨further, later, rfl⟩ := Reading.shift_eq_found_iff.mp read
    simpa using ih later

/-- A declaring statement has its variable first and its semicolon after it. -/
theorem readStatement_spec {tokens : List Token} {variableOffset lastOffset : Nat}
    (read : readStatement tokens = .declares variableOffset lastOffset) :
    (∃ token, tokens[variableOffset]? = some token ∧ token.isKind .variableName = true) ∧
      variableOffset < lastOffset ∧ tokens[lastOffset]? = some (.symbol ';') := by
  -- A statement declares only if the variable is found and then the semicolon behind it.
  unfold readStatement at read
  split at read
  · simp at read
  · simp at read
  · rename_i offset named
    split at read
    · simp at read
    · simp at read
    · rename_i further semicolon
      obtain ⟨rfl, rfl⟩ := Statement.declares.inj read
      have ends := semicolonReading_spec semicolon
      rw [List.getElem?_drop] at ends
      exact ⟨(variableReading_spec named).1, by omega, ends⟩

/-- A sweep whose reports start where it stands or later gives spans in order. -/
theorem spansInOrder_of_forward {recognize : Site → Verdict} {tokens : List Token}
    (forward : ∀ index span last, index < tokens.length →
      recognize (Site.at tokens index) = .report span last →
      index ≤ span.first ∧ span.first ≤ span.last ∧ span.last ≤ index + last ∧
        index + last < tokens.length) :
    SpansInOrder tokens.length (sweep recognize tokens) := by
  -- Nothing is reached back over, so no token has to lead.
  refine spansInOrder_sweep (fun _ => false) fun index span last inside reported => ?_
  obtain ⟨start, first_le, last_le, within⟩ := forward index span last inside reported
  have ends : span.last < tokens.length := by omega
  exact
    { first_le := first_le
      last_le := last_le
      inside := within
      reach := by
        intro position token after before
        omega
      stop := .inr ⟨tokens[span.last], List.getElem?_eq_getElem ends, rfl⟩ }

/-- A token some way behind the keyword at an index lies that much further in the whole list. -/
theorem lt_length_of_drop {tokens after : List Token} {token : Token} {index offset : Nat}
    (rest : after = tokens.drop (index + 1)) (present : after[offset]? = some token) :
    index + (1 + offset) < tokens.length := by
  -- An offset behind the index that holds a token lies in the list.
  have within := (List.getElem?_eq_some_iff.mp present).1
  rw [rest, List.length_drop] at within
  omega

/-- Namespace declarations come in order. -/
theorem namespaceSpans_inOrder (tokens : List Token) :
    SpansInOrder tokens.length (namespaceSpans tokens) := by
  -- The span starts at the keyword and ends on the token that ends the declaration.
  refine spansInOrder_of_forward fun index span last inside reported => ?_
  obtain ⟨keyword, after, stop, ahead, -, ended, rfl, rfl⟩ := recognizeNamespace_report reported
  obtain ⟨-, -, rest⟩ := Site.ahead_at_eq_cons ahead
  have within : index + (1 + stop) < tokens.length := by
    rcases namespaceEnd_spec ended with present | present <;> exact lt_length_of_drop rest present
  rw [Site.index_at (Nat.le_of_lt inside)]
  simp only
  omega

/-- Class names come in order. -/
theorem classNameSpans_inOrder (filter : ClassFilter) (tokens : List Token) :
    SpansInOrder tokens.length (classNameSpans filter tokens) := by
  -- The name is one token after the keyword, so the span is that token alone.
  refine spansInOrder_of_forward fun index span last inside reported => ?_
  obtain ⟨keyword, after, offset, ahead, -, -, named, rfl, rfl⟩ :=
    recognizeClassName_report reported
  obtain ⟨-, -, rest⟩ := Site.ahead_at_eq_cons ahead
  obtain ⟨⟨name, present, -⟩, -⟩ := nameOffset_spec named
  have within := lt_length_of_drop rest present
  rw [Site.index_at (Nat.le_of_lt inside)]
  simp only
  omega

/-- The braces of class bodies come in order. -/
theorem classBraceSpans_inOrder (tokens : List Token) :
    SpansInOrder tokens.length (classBraceSpans tokens) := by
  -- The sweep goes on behind the brace that it reports, and the brace is a token.
  refine spansInOrder_of_forward fun index span last inside reported => ?_
  obtain ⟨keyword, after, offset, ahead, -, opened, rfl, rfl⟩ := recognizeClassBrace_report reported
  obtain ⟨-, -, rest⟩ := Site.ahead_at_eq_cons ahead
  rw [findIdx?_eq_findFrom] at opened
  obtain ⟨-, ⟨brace, present, -⟩, -⟩ := findFrom_spec opened
  have within := lt_length_of_drop rest present
  rw [Site.index_at (Nat.le_of_lt inside)]
  simp only
  omega

/-- The braces around a body are in order and in the list. -/
theorem classBodies_inRange {tokens : List Token} {body : Body}
    (listed : body ∈ classBodies tokens) :
    body.opening ≤ body.closing ∧ body.closing < tokens.length := by
  obtain ⟨span, opened, rfl⟩ := List.mem_map.mp listed
  have bounded := (classBraceSpans_inOrder tokens).bounded span opened
  cases closed : closerAt? tokens span.first with
  -- A body that is never closed runs to the end of the list.
  | none =>
    simp only [Option.getD_none]
    omega
  | some close =>
    obtain ⟨delimiter, -, later, present⟩ := closerAt?_spec closed
    simp only [Option.getD_some]
    exact ⟨Nat.le_of_lt later, (List.getElem?_eq_some_iff.mp present).1⟩

/-- A qualified name has at least one token, and all of them are in the list. -/
theorem qualifiedNameOffsets_spec {after : List Token} {start stop : Nat}
    (found : qualifiedNameOffsets after = some (start, stop)) :
    start ≤ stop ∧ stop < after.length := by
  simp only [qualifiedNameOffsets, Option.bind_eq_bind] at found
  obtain ⟨first, significant, measured⟩ := Option.bind_eq_some_iff.mp found
  -- The name is a run of what is ahead, so it ends before the list does.
  have within : ((after.drop first).takeWhile Token.isPlainNamePart).length ≤
      after.length - first := by
    have shorter := (List.takeWhile_sublist (l := after.drop first) Token.isPlainNamePart).length_le
    rwa [List.length_drop] at shorter
  split at measured
  · simp only [Option.some.injEq, Prod.mk.injEq] at measured
    omega
  · simp at measured

/-- Names of parent classes come in order. -/
theorem parentSpans_inOrder (tokens : List Token) :
    SpansInOrder tokens.length (parentSpans tokens) := by
  -- The name starts after the keyword, and the sweep goes on after its last token.
  refine spansInOrder_of_forward fun index span last inside reported => ?_
  obtain ⟨keyword, after, start, stop, ahead, -, named, rfl, rfl⟩ := recognizeParent_report reported
  obtain ⟨-, -, rest⟩ := Site.ahead_at_eq_cons ahead
  obtain ⟨started, stopped⟩ := qualifiedNameOffsets_spec named
  have within := lt_length_of_drop rest (List.getElem?_eq_getElem stopped)
  rw [Site.index_at (Nat.le_of_lt inside)]
  simp only
  omega

/-- A list of interfaces keeps its first name and stops before the brace. -/
theorem interfacesLength_bounds {after : List Token} {start brace : Nat} {name : Token}
    (present : after[start]? = some name) (significant : name.isTrivia = false)
    (apart : start < brace) :
    0 < interfacesLength after start brace ∧
      start + interfacesLength after start brace ≤ brace := by
  constructor
  · -- The first name is no white space, so the run at the end cannot swallow it.
    have listed : name ∈ ((after.take brace).drop start).reverse := by
      rw [List.mem_reverse]
      have head : ((after.take brace).drop start)[0]? = some name := by
        rw [List.getElem?_drop, List.getElem?_take_of_lt (by omega), Nat.add_zero, present]
      exact List.mem_of_getElem? head
    rw [interfacesLength, List.length_pos_iff]
    intro swallowed
    have blank := List.dropWhile_eq_nil_iff.mp swallowed name listed
    obtain ⟨text, line, rfl⟩ := Token.isKind_iff.mp blank
    simp [Token.isTrivia] at significant
  · have shorter := (List.dropWhile_sublist (l := ((after.take brace).drop start).reverse)
      (Token.isKind .whitespace)).length_le
    rw [List.length_reverse, List.length_drop, List.length_take] at shorter
    rw [interfacesLength]
    omega

/-- Lists of interfaces come in order. -/
theorem interfaceSpans_inOrder (tokens : List Token) :
    SpansInOrder tokens.length (interfaceSpans tokens) := by
  -- The list may end before the brace, but never before its first name.
  refine spansInOrder_of_forward fun index span last inside reported => ?_
  obtain ⟨keyword, after, start, brace, ahead, -, significant, -, opened, apart, rfl, rfl⟩ :=
    recognizeInterfaces_report reported
  obtain ⟨-, -, rest⟩ := Site.ahead_at_eq_cons ahead
  rw [significantFrom_eq_findFrom] at significant
  obtain ⟨-, ⟨name, present, kept⟩, -⟩ := findFrom_spec significant
  obtain ⟨positive, short⟩ := interfacesLength_bounds present (by simpa using kept) apart
  have within := lt_length_of_drop rest opened
  rw [Site.index_at (Nat.le_of_lt inside)]
  simp only
  omega

/-- Import statements come in order. -/
theorem importSpans_inOrder (tokens : List Token) :
    SpansInOrder tokens.length (importSpans tokens) := by
  -- The sweep goes on behind the semicolon that it reports, and the semicolon is a token.
  refine spansInOrder_of_forward fun index span last inside reported => ?_
  obtain ⟨keyword, after, stop, ahead, -, -, -, ended, rfl, rfl⟩ := recognizeImport_report reported
  obtain ⟨-, -, rest⟩ := Site.ahead_at_eq_cons ahead
  rw [findIdx?_eq_findFrom] at ended
  obtain ⟨-, ⟨semicolon, present, -⟩, -⟩ := findFrom_spec ended
  have within := lt_length_of_drop rest present
  rw [Site.index_at (Nat.le_of_lt inside)]
  simp only
  omega

/-- An import starts on its keyword and ends on its semicolon. -/
theorem importSpans_ends {tokens : List Token} {span : Span} (listed : span ∈ importSpans tokens) :
    span.first < span.last ∧
      (∃ keyword, tokens[span.first]? = some keyword ∧ keyword.isWord .useWord = true) ∧
      tokens[span.last]? = some (.symbol ';') := by
  -- The span goes from the keyword at the site to the semicolon that was searched for.
  obtain ⟨start, last, inside, reported⟩ := mem_sweep listed
  obtain ⟨keyword, after, stop, ahead, -, keyed, -, ended, rfl, -⟩ :=
    recognizeImport_report reported
  obtain ⟨-, present, rest⟩ := Site.ahead_at_eq_cons ahead
  rw [findIdx?_eq_findFrom] at ended
  obtain ⟨-, ⟨token, standing, semicolon⟩, -⟩ := findFrom_spec ended
  rw [rest, List.getElem?_drop, Token.isSymbol_iff.mp semicolon] at standing
  rw [Site.index_at (Nat.le_of_lt inside)]
  exact ⟨by simp only; omega, ⟨keyword, present, keyed⟩, standing⟩

/-- What stands between the leading part of a declaration and its index belongs to the run. -/
theorem leads_of_leadingLength {isModifier : Token → Bool} {tokens : List Token}
    {index position : Nat} {token : Token} (inside : index ≤ tokens.length)
    (start : index - leadingLength isModifier (Site.at tokens index).behind ≤ position)
    (before : position < index) (present : tokens[position]? = some token) :
    token.leads isModifier = true := by
  -- Counted from the back, the position is one of those that the length covers.
  have behind : (Site.at tokens index).behind[index - 1 - position]? = some token := by
    rw [Site.getElem?_behind_at inside (by omega)]
    rwa [show index - 1 - (index - 1 - position) = position by omega]
  exact leads_of_lt_leadingLength (by omega) behind

/-- Declarations of properties come in order. -/
theorem propertySpans_inOrder (tokens : List Token) :
    SpansInOrder tokens.length (propertySpans tokens) := by
  -- The comments in front reach back, and the semicolon at the end keeps the next property from it.
  refine spansInOrder_sweep (Token.leads fun _ => false) fun index span last inside reported => ?_
  obtain ⟨keyword, after, offset, ahead, -, -, declared, rfl⟩ := recognizeProperty_report reported
  obtain ⟨-, later, ends⟩ := readStatement_spec declared
  have semicolon : tokens[index + last]? = some (.symbol ';') := by
    rwa [Site.at, List.getElem?_drop] at ends
  have within := (List.getElem?_eq_some_iff.mp semicolon).1
  rw [Site.index_at (Nat.le_of_lt inside)]
  exact
    { first_le := by simp only; omega
      last_le := by simp only; omega
      inside := within
      reach := fun position token start before present =>
        leads_of_leadingLength (Nat.le_of_lt inside) start before present
      stop := .inr ⟨.symbol ';', semicolon, rfl⟩ }

/-- Declarations of methods come in order. -/
theorem methodSpans_inOrder (tokens : List Token) :
    SpansInOrder tokens.length (methodSpans tokens) := by
  -- Comments and modifiers in front reach back, and what ends a method is neither.
  refine spansInOrder_sweep (Token.leads Token.isMethodModifier)
    fun index span last inside reported => ?_
  obtain ⟨keyword, after, name, stop, ahead, -, -, -, ended, rfl, rfl⟩ :=
    recognizeMethod_report reported
  obtain ⟨-, -, rest⟩ := Site.ahead_at_eq_cons ahead
  obtain ⟨parameters, -, -, stopped, closing⟩ := declarationEnd_spec ended
  have within := lt_length_of_drop rest (List.getElem?_eq_getElem stopped)
  rw [Site.index_at (Nat.le_of_lt inside)]
  refine
    { first_le := by simp only; omega
      last_le := by simp only; omega
      inside := within
      reach := fun position token start before present =>
        leads_of_leadingLength (Nat.le_of_lt inside) start before present
      stop := ?_ }
  -- A declaration that breaks off is the last one, and any other ends on a symbol.
  rw [rest, List.getElem?_drop, List.length_drop] at closing
  rcases closing with ended | semicolon | brace
  · exact .inl (by omega)
  · exact .inr ⟨.symbol ';', semicolon, rfl⟩
  · exact .inr ⟨.symbol '}', brace, rfl⟩

/-- The mark of a property is its variable, which lies inside its span. -/
theorem propertySpans_mark {tokens : List Token} {span : Span}
    (listed : span ∈ propertySpans tokens) :
    ∃ mark, span.mark? = some mark ∧ span.first ≤ mark ∧ mark ≤ span.last ∧
      ∃ token, tokens[mark]? = some token ∧ token.isKind .variableName = true := by
  -- The mark is the variable that the reading of the statement came to.
  obtain ⟨index, last, inside, reported⟩ := mem_sweep listed
  obtain ⟨keyword, after, offset, ahead, -, -, declared, rfl⟩ := recognizeProperty_report reported
  obtain ⟨⟨token, present, typed⟩, earlier, -⟩ := readStatement_spec declared
  rw [Site.at, List.getElem?_drop] at present
  rw [Site.index_at (Nat.le_of_lt inside)]
  exact ⟨index + offset, rfl, by simp only; omega, by simp only; omega, token, present, typed⟩

/-- The mark of a method is its keyword, which lies inside its span. -/
theorem methodSpans_mark {tokens : List Token} {span : Span} (listed : span ∈ methodSpans tokens) :
    ∃ mark, span.mark? = some mark ∧ span.first ≤ mark ∧ mark ≤ span.last := by
  -- The mark is the keyword, and modifiers only come before it.
  obtain ⟨index, last, inside, reported⟩ := mem_sweep listed
  obtain ⟨keyword, after, name, stop, ahead, -, -, -, -, rfl, -⟩ := recognizeMethod_report reported
  rw [Site.index_at (Nat.le_of_lt inside)]
  exact ⟨index, rfl, by simp only; omega, by simp only; omega⟩

/-- Behind the mark of a method stands its name, and its declaration ends with its span. -/
theorem methodSpans_declaration {tokens : List Token} {span : Span}
    (listed : span ∈ methodSpans tokens) :
    ∃ mark keyword name stop, span.mark? = some mark ∧ span.last = mark + 1 + stop ∧
      tokens[mark]? = some keyword ∧ keyword.isWord .functionWord = true ∧
      followsUse (tokens.take mark).reverse = false ∧
      functionNameOffset (tokens.drop (mark + 1)) = some name ∧
      declarationEnd (tokens.drop (mark + 1)) = some stop := by
  -- All that the sweep asked of the site is found again at the mark.
  obtain ⟨index, last, inside, reported⟩ := mem_sweep listed
  obtain ⟨keyword, after, name, stop, ahead, keyed, apart, named, ended, rfl, -⟩ :=
    recognizeMethod_report reported
  obtain ⟨-, present, rest⟩ := Site.ahead_at_eq_cons ahead
  rw [rest] at named ended
  rw [Site.index_at (Nat.le_of_lt inside)]
  exact ⟨index, keyword, name, stop, rfl, rfl, present, keyed, apart, named, ended⟩

/-- The mark of a brace is the keyword of its class, which lies before it. -/
theorem classBraceSpans_mark {tokens : List Token} {span : Span}
    (listed : span ∈ classBraceSpans tokens) :
    ∃ mark, span.mark? = some mark ∧ mark < span.first := by
  -- The brace is searched for behind the keyword.
  obtain ⟨index, last, inside, reported⟩ := mem_sweep listed
  obtain ⟨keyword, after, offset, ahead, -, -, rfl, -⟩ := recognizeClassBrace_report reported
  exact ⟨_, rfl, by simp only; omega⟩

/-- A sweep whose reports have no mark gives spans without marks. -/
theorem mark?_eq_none_of_mem_sweep {recognize : Site → Verdict} {tokens : List Token} {span : Span}
    (unmarked : ∀ site span last, recognize site = .report span last → span.mark? = none)
    (listed : span ∈ sweep recognize tokens) : span.mark? = none := by
  obtain ⟨index, last, -, reported⟩ := mem_sweep listed
  exact unmarked _ span last reported

/-- Class names have no mark. -/
theorem classNameSpans_unmarked {filter : ClassFilter} {tokens : List Token} {span : Span}
    (listed : span ∈ classNameSpans filter tokens) : span.mark? = none := by
  -- The sweep reports each name without a mark.
  refine mark?_eq_none_of_mem_sweep (fun site span last reported => ?_) listed
  obtain ⟨_, _, _, -, -, -, -, rfl, -⟩ := recognizeClassName_report reported
  rfl

/-- Namespaces, parents, interfaces and imports have no mark. -/
theorem spans_unmarked {tokens : List Token} {span : Span}
    (listed : span ∈ namespaceSpans tokens ++ parentSpans tokens ++ interfaceSpans tokens ++
      importSpans tokens) : span.mark? = none := by
  -- Each of the four sweeps reports its spans without a mark.
  simp only [List.mem_append] at listed
  rcases listed with ((listed | listed) | listed) | listed
  · refine mark?_eq_none_of_mem_sweep (fun site span last reported => ?_) listed
    obtain ⟨_, _, _, -, -, -, rfl, -⟩ := recognizeNamespace_report reported
    rfl
  · refine mark?_eq_none_of_mem_sweep (fun site span last reported => ?_) listed
    obtain ⟨_, _, _, _, -, -, -, rfl, -⟩ := recognizeParent_report reported
    rfl
  · refine mark?_eq_none_of_mem_sweep (fun site span last reported => ?_) listed
    obtain ⟨_, _, _, _, -, -, -, -, -, -, rfl, -⟩ := recognizeInterfaces_report reported
    rfl
  · refine mark?_eq_none_of_mem_sweep (fun site span last reported => ?_) listed
    obtain ⟨_, _, _, -, -, -, -, -, rfl, -⟩ := recognizeImport_report reported
    rfl

/--
Every sweep gives well-formed spans, whatever tokens it is given.

Spans lie in the list and do not overlap.
Properties and methods have their mark inside, braces have it before them, and no other span has
one.
-/
theorem spans_wellFormed (tokens : List Token) :
    SpansInOrder tokens.length (namespaceSpans tokens) ∧
    (∀ filter, SpansInOrder tokens.length (classNameSpans filter tokens)) ∧
    SpansInOrder tokens.length (classBraceSpans tokens) ∧
    SpansInOrder tokens.length (parentSpans tokens) ∧
    SpansInOrder tokens.length (interfaceSpans tokens) ∧
    SpansInOrder tokens.length (propertySpans tokens) ∧
    SpansInOrder tokens.length (methodSpans tokens) ∧
    SpansInOrder tokens.length (importSpans tokens) ∧
    (∀ span ∈ propertySpans tokens ++ methodSpans tokens,
      ∃ mark, span.mark? = some mark ∧ span.first ≤ mark ∧ mark ≤ span.last) ∧
    (∀ span ∈ classBraceSpans tokens, ∃ mark, span.mark? = some mark ∧ mark < span.first) ∧
    (∀ span ∈ namespaceSpans tokens ++ parentSpans tokens ++ interfaceSpans tokens ++
      importSpans tokens, span.mark? = none) ∧
    (∀ filter, ∀ span ∈ classNameSpans filter tokens, span.mark? = none) := by
  -- The order of each list and the rules on marks are lemmas of their own.
  refine ⟨namespaceSpans_inOrder tokens, fun filter => classNameSpans_inOrder filter tokens,
    classBraceSpans_inOrder tokens, parentSpans_inOrder tokens, interfaceSpans_inOrder tokens,
    propertySpans_inOrder tokens, methodSpans_inOrder tokens, importSpans_inOrder tokens, ?_,
    fun span listed => classBraceSpans_mark listed, fun span listed => spans_unmarked listed,
    fun filter span listed => classNameSpans_unmarked listed⟩
  intro span listed
  rcases List.mem_append.mp listed with property | method
  · obtain ⟨mark, marked, start, stop, -⟩ := propertySpans_mark property
    exact ⟨mark, marked, start, stop⟩
  · exact methodSpans_mark method

end PhpOutline
