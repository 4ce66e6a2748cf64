import Mathlib
import PhpOutline.Outline
import PhpOutline.Proofs.Method

/-!
Outlines stay in range and fail for a single reason.

No index, slice or difference that an outline takes leaves its range, for any list of tokens.
Then an outline fails exactly when a method opens a parenthesis or brace that is never closed.
-/

namespace PhpOutline

/-- A list of at least two tokens has a first one, a last one and those between them. -/
theorem exists_inner_of_length {tokens : List Token} (long : 2 ≤ tokens.length) :
    ∃ first inner last, tokens = first :: (inner ++ [last]) := by
  cases tokens with
  | nil => simp at long
  | cons first rest =>
    -- With only one token the list would be too short.
    have nonempty : rest ≠ [] := by
      rintro rfl
      simp at long
    exact ⟨first, rest.dropLast, rest.getLast nonempty, by rw [List.dropLast_concat_getLast]⟩

/-- A namespace or an import has a token before its inside and another one after it. -/
theorem statement_inner {tokens : List Token} {span : Span}
    (listed : span ∈ namespaceSpans tokens ++ importSpans tokens) :
    ∃ keyword inner stop, span.tokens tokens = keyword :: (inner ++ [stop]) := by
  -- Both kinds of statements end after the keyword they start with.
  have apart : span.first < span.last ∧ span.last < tokens.length := by
    rcases List.mem_append.mp listed with space | brought
    · obtain ⟨index, last, -, reported⟩ := mem_sweep space
      have bounded := ((namespaceSpans_inOrder tokens).bounded span space).2
      obtain ⟨_, _, _, -, -, -, rfl, -⟩ := recognizeNamespace_report reported
      exact ⟨by simp only; omega, bounded⟩
    · obtain ⟨index, last, -, reported⟩ := mem_sweep brought
      have bounded := ((importSpans_inOrder tokens).bounded span brought).2
      obtain ⟨_, _, _, -, -, -, -, -, rfl, -⟩ := recognizeImport_report reported
      exact ⟨by simp only; omega, bounded⟩
  apply exists_inner_of_length
  rw [Span.length_tokens apart.2]
  omega

/-- Every index, slice and difference that the outline of a list takes lies in its range. -/
structure OutlineInRange (tokens : List Token) : Prop where
  /-- A walk from an opening delimiter never takes one from a depth of zero. -/
  depth : ∀ delimiter part, openedBy? part = some delimiter →
    guardedCloserFrom delimiter 0 part = some (closerOffset? delimiter part)
  /-- The reader of a method only walks from opening delimiters. -/
  walk : ∀ (parts : MethodParts) token rest delimiter, parts.opens? token = some delimiter →
    openedBy? (token :: rest) = some delimiter
  /-- A search from an offset answers with an index of a token from the offset on. -/
  search : ∀ test part offset index, findFrom test part offset = some index →
    offset ≤ index ∧ index < part.length
  /-- The next significant token is a token of the list. -/
  significant : ∀ part offset index, significantFrom part offset = some index → index < part.length
  /-- A qualified name is not reversed and ends in the list. -/
  qualified : ∀ after start stop, qualifiedNameOffsets after = some (start, stop) →
    start ≤ stop ∧ stop < after.length
  /-- A declaration ends in the list, which is not empty. -/
  declaration : ∀ after stop, declarationEnd after = some stop → stop < after.length
  /-- No more tokens lead a declaration than stand behind it. -/
  leading : ∀ isModifier behind, leadingLength isModifier behind ≤ behind.length
  /-- A body does not close before it opens, nor after the last token. -/
  body : ∀ body ∈ classBodies tokens, body.opening ≤ body.closing ∧ body.closing < tokens.length
  /-- The spans that are cut out of the list lie in it. -/
  span : ∀ filter, ∀ span ∈ namespaceSpans tokens ++ classNameSpans filter tokens ++
    parentSpans tokens ++ interfaceSpans tokens ++ importSpans tokens ++ propertySpans tokens ++
    methodSpans tokens, span.first ≤ span.last ∧ span.last < tokens.length
  /-- The variable of a property does not come before its span, and is a token of it. -/
  mark : ∀ span ∈ propertySpans tokens, ∃ mark, span.mark? = some mark ∧ span.first ≤ mark ∧
    mark - span.first < (span.tokens tokens).length
  /-- The inside of a namespace or import lies between a first and a last token. -/
  inner : ∀ span ∈ namespaceSpans tokens ++ importSpans tokens,
    ∃ keyword inner stop, span.tokens tokens = keyword :: (inner ++ [stop])

/-- No list of tokens makes an outline leave its ranges. -/
theorem outlineInRange (tokens : List Token) : OutlineInRange tokens where
  -- Each field is a lemma about the definition that takes the index.
  depth := fun _ _ opened => guardedCloserFrom_eq opened
  walk := by
    intro parts token rest delimiter opened
    obtain ⟨rfl, -⟩ := MethodParts.opens?_eq_some opened
    exact openedBy?_eq_some_iff.mpr ⟨rest, rfl⟩
  search := fun _ _ _ _ found => ⟨(findFrom_spec found).1, findFrom_lt found⟩
  significant := fun _ _ _ found => findFrom_lt (significantFrom_eq_findFrom _ _ ▸ found)
  qualified := fun _ _ _ found => qualifiedNameOffsets_spec found
  declaration := by
    intro after stop ended
    obtain ⟨_, -, -, inside, -⟩ := declarationEnd_spec ended
    exact inside
  leading := fun isModifier behind =>
    Nat.le_trans (leadingLength_le isModifier behind) (List.takeWhile_sublist _).length_le
  body := fun _ listed => classBodies_inRange listed
  span := by
    intro filter span listed
    simp only [List.mem_append] at listed
    rcases listed with (((((listed | listed) | listed) | listed) | listed) | listed) | listed
    · exact (namespaceSpans_inOrder tokens).bounded span listed
    · exact (classNameSpans_inOrder filter tokens).bounded span listed
    · exact (parentSpans_inOrder tokens).bounded span listed
    · exact (interfaceSpans_inOrder tokens).bounded span listed
    · exact (importSpans_inOrder tokens).bounded span listed
    · exact (propertySpans_inOrder tokens).bounded span listed
    · exact (methodSpans_inOrder tokens).bounded span listed
  mark := by
    intro span listed
    obtain ⟨mark, token, marked, start, present, -⟩ := propertySpans_variable listed
    exact ⟨mark, marked, start, (List.getElem?_eq_some_iff.mp present).1⟩
  inner := fun _ listed => statement_inner listed

/-- An outline fails exactly when its methods do, for the same cause. -/
theorem outline_eq_error_iff {settings : Settings} {tokens : List Token} {fault : Fault} :
    Outline.ofTokens settings tokens = .error fault ↔ methods tokens = .error fault := by
  -- Describing properties never fails, so a failure is one of the methods.
  obtain ⟨found, described, -⟩ := properties_eq_ok tokens
  cases read : methods tokens <;>
    simp [Outline.ofTokens, described, read, bind, Except.bind, pure, Except.pure]

/--
An outline stays in range, describes every property and has one way to fail.

It fails exactly when a method does, at a parenthesis or brace inside the span of that method.
-/
theorem outline_fails_only_at_openers (settings : Settings) (tokens : List Token) :
    OutlineInRange tokens ∧
    (∃ found, properties tokens = .ok found ∧
      (propertySpans tokens).map (Property.ofSpan tokens) = found.map .ok) ∧
    (∀ fault, Outline.ofTokens settings tokens = .error fault ↔ methods tokens = .error fault) ∧
    (∀ fault, methods tokens = .error fault →
      ∃ index delimiter, ∃ span ∈ methodSpans tokens, fault = .unclosed index delimiter ∧
        tokens[index]? = some (.symbol delimiter.opener) ∧
        span.first ≤ index ∧ index ≤ span.last ∧
        (delimiter = .round ∧
            fault.message = mismatchMessage index "'(' is never closed by ')'" ∨
          delimiter = .curly ∧
            fault.message = mismatchMessage index "'\x7b' is never closed by '\x7d'")) := by
  refine ⟨outlineInRange tokens, properties_eq_ok tokens, fun _ => outline_eq_error_iff, ?_⟩
  -- The fault of a method is that of a delimiter that is never closed, and two of them can be.
  intro fault failed
  obtain ⟨index, delimiter, span, listed, rfl, paired, present, start, stop, -⟩ :=
    methods_eq_error failed
  refine ⟨index, delimiter, span, listed, rfl, present, start, stop, ?_⟩
  rcases paired with rfl | rfl
  · exact .inl ⟨rfl, rfl⟩
  · exact .inr ⟨rfl, rfl⟩

/-- A method whose parameters break off makes the outline fail at their parenthesis. -/
theorem outline_fails_only_at_openers_truncated :
    let tokens : List Token :=
      [.typed .comment "# f" 1, .typed (.word .functionWord) "function" 1, .symbol '&',
       .typed .whitespace " " 1, .typed .identifier "f" 1, .symbol '(', .symbol '\x7b']
    Outline.ofTokens {} tokens = .error (.unclosed 5 .round) ∧
      ∃ span ∈ methodSpans tokens, span.first ≤ 5 ∧ 5 ≤ span.last := by
  intro tokens
  -- The failure of the methods names an opener, and that opener stands in a span.
  have failed : methods tokens = .error (.unclosed 5 .round) := by cbv
  obtain ⟨-, -, agrees, located⟩ := outline_fails_only_at_openers {} tokens
  obtain ⟨index, delimiter, span, listed, named, -, start, stop, -⟩ := located _ failed
  obtain ⟨rfl, rfl⟩ := Fault.unclosed.inj named
  exact ⟨(agrees _).mpr failed, span, listed, start, stop⟩

end PhpOutline
