import PhpOutline.Proofs.SpanOrder
import PhpOutline.Proofs.Traversal

/-! Every property that is found can be described, so describing properties never fails. -/

namespace PhpOutline

/-- Tokens among which one has a line have line bounds. -/
theorem lineBounds_eq_ok {tokens : List Token} {token : Token} {line : Nat}
    (listed : token ∈ tokens) (typed : token.line? = some line) :
    ∃ bounds, lineBounds tokens = .ok bounds := by
  -- The lines that are there are not none, so there is a least and a greatest one.
  have present : line ∈ tokens.filterMap Token.line? :=
    List.mem_filterMap.mpr ⟨token, listed, typed⟩
  unfold lineBounds
  split
  · simp_all
  · exact ⟨_, rfl⟩

/-- A range that is not reversed is the span of its ends. -/
theorem excerpt_eq_ok {tokens : List Token} {span : Span} (ordered : span.first ≤ span.last) :
    excerpt tokens span.first span.last = .ok (span.tokens tokens) := by
  rw [excerpt, if_neg (by omega), Span.tokens]

/-- The variable of a property stands in its declaration, as far from the start as its mark. -/
theorem propertySpans_variable {tokens : List Token} {span : Span}
    (listed : span ∈ propertySpans tokens) :
    ∃ mark token, span.mark? = some mark ∧ span.first ≤ mark ∧
      (span.tokens tokens)[mark - span.first]? = some token ∧
      token.isKind .variableName = true := by
  -- The span is cut from the list, so an index of it is counted from its start.
  obtain ⟨mark, marked, start, stop, token, present, typed⟩ := propertySpans_mark listed
  refine ⟨mark, token, marked, start, ?_, typed⟩
  rw [Span.getElem?_tokens (by omega)]
  rwa [show span.first + (mark - span.first) = mark by omega]

/-- The span of a property can be described. -/
theorem Property.ofSpan_eq_ok {tokens : List Token} {span : Span}
    (listed : span ∈ propertySpans tokens) :
    ∃ property, Property.ofSpan tokens span = .ok property := by
  -- The range is not reversed, and the variable is a token with a line.
  have ordered := ((propertySpans_inOrder tokens).bounded span listed).1
  obtain ⟨mark, token, marked, start, present, typed⟩ := propertySpans_variable listed
  obtain ⟨text, line, rfl⟩ := Token.isKind_iff.mp typed
  obtain ⟨⟨firstLine, lastLine⟩, bounds⟩ := lineBounds_eq_ok (List.mem_of_getElem? present) rfl
  simp [Property.ofSpan, excerpt_eq_ok ordered, bounds, bind, Except.bind, pure, Except.pure]

/-- Describing the properties of a list succeeds, with one record for each span. -/
theorem properties_eq_ok (tokens : List Token) :
    ∃ found, properties tokens = .ok found ∧
      (propertySpans tokens).map (Property.ofSpan tokens) = found.map .ok := by
  cases described : properties tokens with
  | ok found => exact ⟨found, rfl, map_eq_of_mapM_eq_ok described⟩
  | error fault =>
    -- A failure would be one of a single span.
    obtain ⟨span, listed, failed⟩ := exists_of_mapM_eq_error described
    obtain ⟨property, described⟩ := Property.ofSpan_eq_ok listed
    simp [failed] at described

end PhpOutline
