import Mathlib
import PhpOutline.Proofs.MethodRecord
import PhpOutline.Proofs.Token.Comment

/-!
Reported lines are lines of the source text.

The line of a typed token is the line of its offset in the source, so that every line of a record
can be traced back to a place of the source by way of the token it was taken from.
-/

namespace PhpOutline

/-- The line of the character at an offset of a text, counted from one. -/
def lineAt (source : String) (offset : Nat) : Nat :=
  -- A line feed belongs to the line that it ends.
  1 + (source.toList.take offset).count '\n'

/-- The offset at which the token at an index starts. -/
def offsetAt (tokens : List Token) (index : Nat) : Nat :=
  -- The tokens before it are all the text before it.
  (textOf (tokens.take index)).length

/-- The first index of a range, both ends included, at which a token passes a test. -/
structure IsFirstIn (tokens : List Token) (test : Token → Bool) (first last index : Nat) :
    Prop where
  lower : first ≤ index
  upper : index ≤ last
  passes : tokens[index]?.any test = true
  earlier : ∀ other, first ≤ other → other < index → tokens[other]?.any test = false

/-- A property whose lines are those of its text in a source. -/
structure Property.LocatedIn (source : String) (property : Property) : Prop where
  /-- The declaration stands in the source and starts on the first line. -/
  text : ∃ before after, source = before ++ property.content ++ after ∧
    property.firstLine = 1 + lineFeeds before
  ordered : property.firstLine ≤ property.lastLine
  bounded : property.lastLine ≤ property.firstLine + lineFeeds property.content
  /-- The documentation stands in the declaration, on its own lines and not below the last one. -/
  doc : ∀ doc, property.docComment? = some doc → ∃ before after firstLine lastLine,
    property.content = before ++ doc ++ after ∧ property.docLines? = some (firstLine, lastLine) ∧
      firstLine = property.firstLine + lineFeeds before ∧
      lastLine = firstLine + lineFeeds doc ∧ lastLine ≤ property.lastLine

/-- A method whose lines are those of its tokens in a source, from its span up to its mark. -/
structure Method.LocatedAt (source : String) (span : Span) (mark : Nat) (method : Method) :
    Prop where
  /-- The text of the span stands in the source where the first token does. -/
  text : ∃ after, source =
    textOf ((tokenize source).take method.firstIndex) ++ span.text (tokenize source) ++ after
  /-- The first line is that of the first visibility, or else of any modifier or the keyword. -/
  start : ∃ index, method.firstLine = lineAt source (offsetAt (tokenize source) index) ∧
    (IsFirstIn (tokenize source) Token.showsVisibility span.first mark index ∨
      (∀ other, span.first ≤ other → other ≤ mark →
        (tokenize source)[other]?.any Token.showsVisibility = false) ∧
      IsFirstIn (tokenize source) Token.startsMethod span.first mark index)
  /-- The comment stands before the keyword, on the lines of its first and last character. -/
  comment : ∀ comment, method.comment? = some comment → ∃ index inner last,
    span.first ≤ index ∧ index < mark ∧
      (tokenize source)[index]?.map Token.text = some comment.text ∧
      withoutLineBreak comment.text.toList = inner ++ [last] ∧
      comment.firstLine = lineAt source (offsetAt (tokenize source) index) ∧
      comment.lastLine = lineAt source (offsetAt (tokenize source) index + inner.length)

section

variable {source : String} {index : Nat} {token : Token} {line : Nat}

/-- The tokens before an index and those from it on are the source. -/
theorem textOf_take_append_drop (source : String) (index : Nat) :
    textOf ((tokenize source).take index) ++ textOf ((tokenize source).drop index) = source := by
  rw [← textOf_append, List.take_append_drop]
  exact String.toList_inj.mp (textOf_tokenizeFrom .html 1 source.toList)

/-- The line of a character behind the start of a token counts the line feeds up to it. -/
theorem lineAt_offsetAt_add {inner : List Char}
    (opens : inner <+: (textOf ((tokenize source).drop index)).toList) :
    lineAt source (offsetAt (tokenize source) index + inner.length) =
      1 + lineFeeds (textOf ((tokenize source).take index)) + inner.count '\n' := by
  -- Up to the place the source is made of the tokens before the index and of the inner part.
  obtain ⟨rest, joined⟩ := opens
  have text : source.toList =
      (textOf ((tokenize source).take index)).toList ++ inner ++ rest := by
    nth_rewrite 1 [← textOf_take_append_drop source index]
    rw [String.toList_append, List.append_assoc, joined]
  rw [lineAt, offsetAt, text, ← String.length_toList, ← List.length_append, List.take_left,
    List.count_append, lineFeeds]
  omega

/-- The line of a token's start counts the line feeds of the tokens before it. -/
theorem lineAt_offsetAt (source : String) (index : Nat) :
    lineAt source (offsetAt (tokenize source) index) =
      1 + lineFeeds (textOf ((tokenize source).take index)) := by
  have none : [] <+: (textOf ((tokenize source).drop index)).toList := List.nil_prefix
  simpa using lineAt_offsetAt_add none

/-- The line of a token is the line of its start. -/
theorem line_eq_lineAt (present : (tokenize source)[index]? = some token)
    (typed : token.line? = some line) :
    line = lineAt source (offsetAt (tokenize source) index) := by
  rw [lineAt_offsetAt]
  exact tokenizeFrom_line (eq_append_cons_of_getElem? present) typed

end

/-- A list falls apart into the tokens before a span, its own and those behind it. -/
theorem Span.append_tokens_append {span : Span} (ordered : span.first ≤ span.last)
    (tokens : List Token) :
    tokens.take span.first ++ span.tokens tokens ++ tokens.drop (span.last + 1) = tokens := by
  -- The span is the front up to its last token, without what comes before its first.
  have front : (tokens.take (span.last + 1)).take span.first = tokens.take span.first := by
    rw [List.take_take, Nat.min_eq_left (by omega)]
  rw [Span.tokens, ← front, List.take_append_drop, List.take_append_drop]

/-- The line of a token in a span counts the line feeds up to the span and those in it. -/
theorem Span.line_eq {source : String} {span : Span} {offset line : Nat} {token : Token}
    (ordered : span.first ≤ span.last)
    (present : (span.tokens (tokenize source))[offset]? = some token)
    (typed : token.line? = some line) :
    line = 1 + lineFeeds (textOf ((tokenize source).take span.first)) +
      lineFeeds (textOf ((span.tokens (tokenize source)).take offset)) := by
  -- The token is cut out of the whole list, and its line counts what comes before it.
  have whole := span.append_tokens_append ordered (tokenize source)
  rw [eq_append_cons_of_getElem? present] at whole
  have cut : tokenizeFrom .html 1 source.toList =
      ((tokenize source).take span.first ++ (span.tokens (tokenize source)).take offset) ++
        token :: ((span.tokens (tokenize source)).drop (offset + 1) ++
          (tokenize source).drop (span.last + 1)) := by
    rw [← tokenize]
    simpa using whole.symm
  rw [tokenizeFrom_line cut typed, textOf_append, lineFeeds_append]
  omega

/-- Of lines that never decrease, the last one bounds the others. -/
theorem lineBounds_spec {tokens : List Token} {firstLine lastLine : Nat}
    (sorted : (tokens.filterMap Token.line?).Pairwise (· ≤ ·))
    (bounds : lineBounds tokens = .ok (firstLine, lastLine)) :
    (tokens.filterMap Token.line?).head? = some firstLine ∧
      lastLine ∈ tokens.filterMap Token.line? ∧
      ∀ line ∈ tokens.filterMap Token.line?, line ≤ lastLine := by
  unfold lineBounds at bounds
  generalize tokens.filterMap Token.line? = lines at *
  cases lines with
  | nil => simp at bounds
  | cons first rest =>
    simp only [Except.ok.injEq, Prod.mk.injEq] at bounds
    obtain ⟨rfl, rfl⟩ := bounds
    refine ⟨rfl, ?_, ?_⟩
    · -- The last line is that of the last token, or the only one.
      rcases List.eq_nil_or_concat rest with rfl | ⟨front, last, rfl⟩ <;> simp
    · intro line listed
      rcases List.eq_nil_or_concat rest with rfl | ⟨front, last, rfl⟩
      · simp_all
      · -- Lines never decrease, so none is behind the last.
        rw [List.concat_eq_append, ← List.cons_append] at sorted listed
        rw [List.concat_eq_append, List.getLastD_concat]
        rcases List.mem_append.mp listed with earlier | final
        · exact (List.pairwise_append.mp sorted).2.2 line earlier last (by simp)
        · simp_all

/-- The declaration of a property starts with a token that has a line. -/
theorem propertySpans_first {tokens : List Token} {span : Span}
    (listed : span ∈ propertySpans tokens) :
    ∃ token line, tokens[span.first]? = some token ∧ token.line? = some line := by
  obtain ⟨index, last, inside, reported⟩ := mem_sweep listed
  obtain ⟨keyword, after, offset, ahead, modifies, -, -, rfl⟩ := recognizeProperty_report reported
  obtain ⟨-, present, -⟩ := Site.ahead_at_eq_cons ahead
  rw [Site.index_at (Nat.le_of_lt inside)]
  generalize width : leadingLength (fun _ => false) (Site.at tokens index).behind = leading
  rcases Nat.lt_or_ge (index - leading) index with before | atKeyword
  · -- What stands in front of the modifier is trivia.
    obtain ⟨token, standing⟩ : ∃ token, tokens[index - leading]? = some token :=
      ⟨_, List.getElem?_eq_getElem (by omega)⟩
    have leads := leads_of_leadingLength (Nat.le_of_lt inside) (by rw [width]) before standing
    cases token with
    | symbol char => simp [Token.leads, Token.isTrivia] at leads
    | typed kind text line => exact ⟨_, line, standing, rfl⟩
  · cases keyword with
    | symbol char => simp [Token.isPropertyModifier, Token.isWord, Token.isKind] at modifies
    | typed kind text line =>
      exact ⟨_, line, by rwa [show index - leading = index by omega], rfl⟩

/-- What the record of a property says of its lines and of its documentation. -/
theorem Property.ofSpan_spec {tokens : List Token} {span : Span} {property : Property}
    (ordered : span.first ≤ span.last) (described : Property.ofSpan tokens span = .ok property) :
    property.content = textOf (span.tokens tokens) ∧
      lineBounds (span.tokens tokens) = .ok (property.firstLine, property.lastLine) ∧
      ∃ doc?, doc? = ((span.tokens tokens).take (span.mark?.getD span.first - span.first)).find?
          (Token.isKind .docComment) ∧
        property.docComment? = doc?.map Token.text ∧
        property.docLines? = doc?.bind fun doc =>
          doc.line?.bind fun line => some (line, line + lineFeeds doc.text) := by
  -- The record was made, so its lines were found, and each field is read off.
  simp only [Property.ofSpan, excerpt_eq_ok ordered, bind, Except.bind] at described
  cases bounds : lineBounds (span.tokens tokens) with
  | error fault => simp [bounds] at described
  | ok lines =>
    simp only [bounds, pure, Except.pure, Except.ok.injEq] at described
    rw [← described]
    exact ⟨rfl, rfl, _, rfl, rfl, rfl⟩

/-- Cutting a list of tokens short does not add line feeds. -/
theorem lineFeeds_textOf_take_le (tokens : List Token) {short long : Nat} (shorter : short ≤ long) :
    lineFeeds (textOf (tokens.take short)) ≤ lineFeeds (textOf (tokens.take long)) := by
  -- The shorter part stands in front of the longer one.
  obtain ⟨rest, joined⟩ := List.take_prefix_take_left (l := tokens) shorter
  rw [← joined, textOf_append, lineFeeds_append]
  omega

/-- The lines of the tokens of a span never decrease. -/
theorem Span.sorted_lines (source : String) (span : Span) :
    ((span.tokens (tokenize source)).filterMap Token.line?).Pairwise (· ≤ ·) :=
  (tokenizeFrom_lines_sorted .html 1 source.toList).sublist
    (((List.drop_sublist _ _).trans (List.take_sublist _ _)).filterMap _)

section

variable {source : String} {span : Span} {property : Property}

/-- A property starts on the line behind the line feeds before it. -/
theorem Property.firstLine_eq (listed : span ∈ propertySpans (tokenize source))
    (described : Property.ofSpan (tokenize source) span = .ok property) :
    property.firstLine = 1 + lineFeeds (textOf ((tokenize source).take span.first)) := by
  have ordered := ((propertySpans_inOrder (tokenize source)).bounded span listed).1
  obtain ⟨-, bounds, -⟩ := Property.ofSpan_spec ordered described
  obtain ⟨head, -⟩ := lineBounds_spec (span.sorted_lines source) bounds
  -- The first token has a line, and it is the first one that has.
  obtain ⟨token, line, present, typed⟩ := propertySpans_first listed
  have front : (span.tokens (tokenize source))[0]? = some token := by
    rwa [Span.getElem?_tokens (by omega), Nat.add_zero]
  have own : property.firstLine = line := by
    rw [eq_append_cons_of_getElem? front] at head
    simpa [typed] using head.symm
  rw [own, Span.line_eq ordered front typed]
  simp

/-- A property ends on a line of its text. -/
theorem Property.lastLine_le (listed : span ∈ propertySpans (tokenize source))
    (described : Property.ofSpan (tokenize source) span = .ok property) :
    property.lastLine ≤ property.firstLine + lineFeeds property.content := by
  have ordered := ((propertySpans_inOrder (tokenize source)).bounded span listed).1
  obtain ⟨content, bounds, -⟩ := Property.ofSpan_spec ordered described
  obtain ⟨-, last, -⟩ := lineBounds_spec (span.sorted_lines source) bounds
  -- The last line is that of a token, and counts line feeds of the declaration only.
  obtain ⟨token, member, typed⟩ := List.mem_filterMap.mp last
  obtain ⟨offset, present⟩ := List.getElem?_of_mem member
  have inside := (List.getElem?_eq_some_iff.mp present).1
  have fewer := lineFeeds_textOf_take_le (span.tokens (tokenize source)) (Nat.le_of_lt inside)
  rw [List.take_length] at fewer
  rw [Span.line_eq ordered present typed, content, Property.firstLine_eq listed described]
  omega

/-- The documentation of a property stands before its variable. -/
theorem Property.exists_doc (listed : span ∈ propertySpans (tokenize source))
    (described : Property.ofSpan (tokenize source) span = .ok property) {doc : String}
    (documented : property.docComment? = some doc) :
    ∃ mark offset line, span.mark? = some mark ∧ offset < mark - span.first ∧
      (span.tokens (tokenize source))[offset]? = some (.typed .docComment doc line) ∧
      property.docLines? = some (line, line + lineFeeds doc) := by
  -- The documentation is the first comment of its kind before the variable.
  have ordered := ((propertySpans_inOrder (tokenize source)).bounded span listed).1
  obtain ⟨-, -, doc?, found, docText, docLines⟩ := Property.ofSpan_spec ordered described
  rw [docText] at documented
  obtain ⟨token, rfl, rfl⟩ := Option.map_eq_some_iff.mp documented
  obtain ⟨mark, -, marked, -⟩ := propertySpans_variable listed
  rw [marked, Option.getD_some] at found
  obtain ⟨offset, place⟩ := List.getElem?_of_mem (List.mem_of_find?_eq_some found.symm)
  have near : offset < mark - span.first := by
    have short := (List.getElem?_eq_some_iff.mp place).1
    simp only [List.length_take] at short
    omega
  rw [List.getElem?_take_of_lt near] at place
  obtain ⟨text, line, rfl⟩ := Token.isKind_iff.mp (List.find?_some found.symm)
  exact ⟨mark, offset, line, marked, near, place, docLines⟩

/-- The lines of every property are those of its text. -/
theorem Property.locatedIn (listed : span ∈ propertySpans (tokenize source))
    (described : Property.ofSpan (tokenize source) span = .ok property) :
    property.LocatedIn source := by
  have ordered := ((propertySpans_inOrder (tokenize source)).bounded span listed).1
  obtain ⟨content, bounds, -⟩ := Property.ofSpan_spec ordered described
  obtain ⟨head, -, most⟩ := lineBounds_spec (span.sorted_lines source) bounds
  have firstLine := Property.firstLine_eq listed described
  constructor
  · refine ⟨_, textOf ((tokenize source).drop (span.last + 1)), ?_, firstLine⟩
    rw [content, ← textOf_append, ← textOf_append, span.append_tokens_append ordered]
    exact (String.toList_inj.mp (textOf_tokenizeFrom .html 1 source.toList)).symm
  · exact most _ (List.mem_of_head? head)
  · exact Property.lastLine_le listed described
  · intro doc documented
    obtain ⟨mark, offset, line, marked, near, place, docLines⟩ :=
      Property.exists_doc listed described documented
    obtain ⟨own, name, same, -, standing, named⟩ := propertySpans_variable listed
    obtain rfl : mark = own := Option.some.inj (marked.symm.trans same)
    obtain ⟨nameText, nameLine, rfl⟩ := Token.isKind_iff.mp named
    -- The line feeds of the comment come before the variable, whose line the last one bounds.
    have docLine := Span.line_eq ordered place rfl
    have lastLine := most nameLine (List.mem_filterMap.mpr ⟨_, List.mem_of_getElem? standing, rfl⟩)
    rw [Span.line_eq ordered standing rfl] at lastLine
    have below := lineFeeds_textOf_take_le (span.tokens (tokenize source)) near
    rw [Nat.succ_eq_add_one, List.take_add_one, place] at below
    simp only [Option.toList_some, textOf_append, lineFeeds_append, textOf_cons, textOf_nil,
      Token.text, lineFeeds_empty] at below
    refine ⟨textOf ((span.tokens (tokenize source)).take offset),
      textOf ((span.tokens (tokenize source)).drop (offset + 1)), line, _, ?_, docLines, by omega,
      rfl, by omega⟩
    rw [content]
    nth_rewrite 1 [eq_append_cons_of_getElem? place]
    simp [Token.text, String.append_assoc]

end

section

variable {tokens head : List Token} {test : Token → Bool} {first : Nat}

/-- What is found in a part of a list stands at the first index of the part that passes the test. -/
theorem exists_isFirstIn_of_find? {token : Token}
    (placed : ∀ offset < head.length, tokens[first + offset]? = head[offset]?)
    (found : head.find? test = some token) :
    ∃ index, tokens[index]? = some token ∧
      IsFirstIn tokens test first (first + head.length - 1) index := by
  -- The search runs through the head, whose tokens stand from the first index on.
  obtain ⟨passes, offset, inside, rfl, fails⟩ := List.find?_eq_some_iff_getElem.mp found
  have here : tokens[first + offset]? = some head[offset] := by
    rw [placed offset inside, List.getElem?_eq_getElem inside]
  refine ⟨first + offset, here, by omega, by omega, by simpa [here] using passes, ?_⟩
  intro other lower before
  have near : other - first < offset := by omega
  rw [show other = first + (other - first) by omega, placed _ (by omega),
    List.getElem?_eq_getElem (by omega), Option.any_some]
  simpa using fails (other - first) near

/-- What is not found in a part of a list passes the test at none of its indices. -/
theorem any_eq_false_of_find?
    (placed : ∀ offset < head.length, tokens[first + offset]? = head[offset]?)
    (missing : head.find? test = none) {other : Nat} (lower : first ≤ other)
    (upper : other < first + head.length) : tokens[other]?.any test = false := by
  -- A search without a result has refused every token of the head.
  rw [show other = first + (other - first) by omega, placed _ (by omega),
    List.getElem?_eq_getElem (by omega), Option.any_some]
  have refused := List.find?_eq_none.mp missing head[other - first] (List.getElem_mem _)
  simpa using refused

end

/-- A token that shows a visibility has a line. -/
theorem Token.exists_line_of_showsVisibility {token : Token}
    (shows : token.showsVisibility = true) : ∃ line, token.line? = some line := by
  -- Only a typed token shows a visibility, and it has a line.
  cases token with
  | symbol char => simp [Token.showsVisibility, Token.kind?] at shows
  | typed kind text line => exact ⟨line, rfl⟩

section

variable {source : String} {span : Span} {method : Method}

/-- A method is described by its span, up to its mark. -/
theorem Method.exists_head (listed : span ∈ methodSpans (tokenize source))
    (described : Method.ofDeclaration span.first (span.tokens (tokenize source)) = .ok method) :
    ∃ lead keyword, span.mark? = some (span.first + lead.length) ∧
      (∀ offset < lead.length + 1,
        (tokenize source)[span.first + offset]? = (lead ++ [keyword])[offset]?) ∧
      startLine? lead keyword = some method.firstLine ∧
      method.comment? = lead.findSome? Comment.ofToken? ∧ method.firstIndex = span.first := by
  obtain ⟨lead, keyword, skipped, named, rest, shape, marked, leading, keyed, skips, names⟩ :=
    methodSpans_shape listed
  obtain ⟨line, started⟩ := exists_startLine? lead keyed
  rw [shape, Method.ofDeclaration_eq_map span.first leading keyed skips names started] at described
  refine ⟨lead, keyword, marked, ?_, ?_⟩
  · intro offset near
    obtain ⟨mark, same, -, inside⟩ := methodSpans_mark listed
    have last := Option.some.inj (marked.symm.trans same)
    rw [← Span.getElem?_tokens (by omega), shape]
    rw [show lead ++ keyword :: (skipped ++ named :: rest) =
      (lead ++ [keyword]) ++ (skipped ++ named :: rest) by simp]
    exact List.getElem?_append_left (by simpa using near)
  · -- The parts were read, so the record is made of the head and of them.
    cases parts : readParts {} (lead.length + 1 + skipped.length + 1) rest with
    | error fault => simp [parts, Except.map] at described
    | ok read =>
      simp only [parts, Except.map, Except.ok.injEq] at described
      rw [← described]
      exact ⟨started, rfl, rfl⟩

/-- The line that a method starts on is that of one of the tokens up to its keyword. -/
theorem startLine?_located {lead : List Token} {keyword : Token} {first line : Nat}
    (placed : ∀ offset < lead.length + 1,
      (tokenize source)[first + offset]? = (lead ++ [keyword])[offset]?)
    (started : startLine? lead keyword = some line) :
    ∃ index, line = lineAt source (offsetAt (tokenize source) index) ∧
      (IsFirstIn (tokenize source) Token.showsVisibility first (first + lead.length) index ∨
        (∀ other, first ≤ other → other ≤ first + lead.length →
          (tokenize source)[other]?.any Token.showsVisibility = false) ∧
        IsFirstIn (tokenize source) Token.startsMethod first (first + lead.length) index) := by
  have width : (lead ++ [keyword]).length = lead.length + 1 := by simp
  rw [← width] at placed
  unfold startLine? at started
  cases visible : (lead ++ [keyword]).find? Token.showsVisibility with
  | some token =>
    -- A token that shows the visibility gives the line, before any other modifier.
    obtain ⟨own, typed⟩ := Token.exists_line_of_showsVisibility (List.find?_some visible)
    obtain ⟨index, present, isFirst⟩ := exists_isFirstIn_of_find? placed visible
    rw [visible, Option.bind_some, typed] at started
    obtain rfl := Option.some.inj started
    exact ⟨index, line_eq_lineAt present typed, .inl (by rwa [width] at isFirst)⟩
  | none =>
    -- Without one, it is the first token that may start a method.
    rw [visible, Option.bind_none] at started
    obtain ⟨token, found, typed⟩ := Option.bind_eq_some_iff.mp started
    obtain ⟨index, present, isFirst⟩ := exists_isFirstIn_of_find? placed found
    refine ⟨index, line_eq_lineAt present typed, .inr ⟨fun other lower upper => ?_, ?_⟩⟩
    · exact any_eq_false_of_find? placed visible lower (by omega)
    · rwa [width] at isFirst

/-- The comment that a token is starts on the line of the token. -/
theorem Comment.exists_of_ofToken? {token : Token} {comment : Comment}
    (is : Comment.ofToken? token = some comment) :
    (token.isKind .comment = true ∨ token.isKind .docComment = true) ∧
      ∃ line sort, token.line? = some line ∧ comment = Comment.ofText sort token.text line := by
  -- Two kinds of tokens are comments, and the sort follows from the kind.
  unfold Comment.ofToken? at is
  split at is
  · exact ⟨.inl rfl, _, _, rfl, (Option.some.inj is).symm⟩
  · exact ⟨.inr rfl, _, _, rfl, (Option.some.inj is).symm⟩
  · simp at is

/-- A comment that another token follows has the lines of its first and last character. -/
theorem Comment.located {index : Nat} {token next : Token} {comment : Comment}
    (present : (tokenize source)[index]? = some token)
    (followed : (tokenize source)[index + 1]? = some next)
    (is : Comment.ofToken? token = some comment) :
    ∃ inner last, withoutLineBreak comment.text.toList = inner ++ [last] ∧
      comment.firstLine = lineAt source (offsetAt (tokenize source) index) ∧
      comment.lastLine = lineAt source (offsetAt (tokenize source) index + inner.length) := by
  obtain ⟨kind, line, sort, typed, rfl⟩ := Comment.exists_of_ofToken? is
  have behind := drop_eq_cons_of_getElem? present
  rw [drop_eq_cons_of_getElem? followed] at behind
  have cut := (List.take_append_drop index (tokenize source)).symm
  rw [behind] at cut
  obtain ⟨inner, last, kept, lastLine⟩ :=
    Comment.lastLine_ofText (commentEnding_of_tokenize cut kind) sort line
  have firstLine := line_eq_lineAt present typed
  -- What is left without the line break stands at the front of the token, and so in the source.
  have opens : inner <+: (textOf ((tokenize source).drop index)).toList := by
    rw [behind, textOf_cons, String.toList_append]
    have front : inner <+: token.text.toList :=
      ((List.prefix_append inner [last]).trans (by rw [← kept])).trans (withoutLineBreak_isPrefix _)
    exact front.trans (List.prefix_append _ _)
  refine ⟨inner, last, kept, firstLine, ?_⟩
  rw [lastLine, lineAt_offsetAt_add opens, firstLine, lineAt_offsetAt]

/-- The lines of every method are those of its tokens. -/
theorem Method.locatedAt (listed : span ∈ methodSpans (tokenize source))
    (described : Method.ofDeclaration span.first (span.tokens (tokenize source)) = .ok method) :
    ∃ mark, span.mark? = some mark ∧ method.LocatedAt source span mark := by
  have ordered := ((methodSpans_inOrder (tokenize source)).bounded span listed).1
  obtain ⟨lead, keyword, marked, placed, started, commented, index⟩ :=
    Method.exists_head listed described
  refine ⟨_, marked, ⟨textOf ((tokenize source).drop (span.last + 1)), ?_⟩,
    startLine?_located placed started, ?_⟩
  · rw [index, Span.text, ← textOf_append, ← textOf_append, span.append_tokens_append ordered]
    exact (String.toList_inj.mp (textOf_tokenizeFrom .html 1 source.toList)).symm
  · intro comment present
    rw [commented] at present
    obtain ⟨earlier, token, later, rfl, is, -⟩ := List.findSome?_eq_some_iff.mp present
    -- The keyword stands behind the comment, so the comment is not the last token.
    simp only [List.length_append, List.length_cons] at placed ⊢
    have standing : (tokenize source)[span.first + earlier.length]? = some token := by
      rw [placed _ (by omega)]
      simp
    obtain ⟨next, followed⟩ :
        ∃ next, (tokenize source)[span.first + earlier.length + 1]? = some next := by
      rw [Nat.add_assoc, placed _ (by omega)]
      exact ⟨_, List.getElem?_eq_getElem (by simp)⟩
    obtain ⟨inner, last, kept, firstLine, lastLine⟩ := Comment.located standing followed is
    obtain ⟨-, line, sort, -, rfl⟩ := Comment.exists_of_ofToken? is
    exact ⟨_, inner, last, by omega, by omega, by rw [standing]; rfl, kept, firstLine, lastLine⟩

end

/--
Reported locations point at the source text.

The properties of a source are always described, each with the lines of its own text.
The methods are described in the order of their spans, each with the lines of its own tokens.
-/
theorem reported_locations (source : String) :
    (∃ found, properties (tokenize source) = .ok found ∧
      ∀ property ∈ found, property.LocatedIn source) ∧
    ∀ records, methods (tokenize source) = .ok records →
      List.Forall₂ (fun span method => ∃ mark, span.mark? = some mark ∧
        method.LocatedAt source span mark) (methodSpans (tokenize source)) records := by
  constructor
  · obtain ⟨found, described, each⟩ := properties_eq_ok (tokenize source)
    -- Describing never fails, so each property has the span that it was read from.
    refine ⟨found, described, fun property listed => ?_⟩
    have member : (Except.ok property : Except Fault Property) ∈ found.map .ok :=
      List.mem_map_of_mem listed
    rw [← each] at member
    obtain ⟨span, present, read⟩ := List.mem_map.mp member
    exact Property.locatedIn present read
  · intro records described
    refine forall₂_of_mapM_eq_ok (fun span listed method read => ?_) described
    exact Method.locatedAt listed (mapError_eq_ok_iff.mp read)

/-- A line comment ends on its own line, above the method that it belongs to. -/
theorem reported_locations_commented :
    let source := "<?php // c\nfinal private function f() {}"
    ∃ method : Method, methods (tokenize source) = .ok [method] ∧ method.firstLine = 2 ∧
      method.comment? = some ⟨.regular, "// c\n", 1, 1⟩ ∧
      ∃ mark, method.LocatedAt source ⟨1, 13, some 6⟩ mark := by
  intro source
  -- The comment and the modifier without a visibility both come before the line of the record.
  have spans : methodSpans (tokenize source) = [⟨1, 13, some 6⟩] := by decide +kernel
  have described : methods (tokenize source) = .ok [⟨"f", .privateAccess, false, true, false, 2, 2,
      "{}", "()", some ⟨.regular, "// c\n", 1, 1⟩, 1⟩] := by decide +kernel
  have located := (reported_locations source).2 _ described
  rw [spans] at located
  obtain ⟨mark, -, lines⟩ := (List.forall₂_cons.mp located).1
  exact ⟨_, described, rfl, rfl, mark, lines⟩

end PhpOutline
