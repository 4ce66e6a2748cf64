import Mathlib
import PhpOutline.Proofs.MethodRecord
import PhpOutline.Proofs.Parts

/-!
Where the texts of a method are cut out of the list of tokens.

The end of a declaration is found by walks over the whole list, and its parts are read by walks
inside the span that ends there.
Where no brace comes before the parameters, both see the same parameters and the same body.
-/

namespace PhpOutline

/-- What is known of the method that a span declares, with failures seen from the whole list. -/
def Method.ofSpan (tokens : List Token) (span : Span) : Except Fault Method :=
  -- The declaration is read on its own.
  (Method.ofDeclaration span.first (span.tokens tokens)).mapError (Fault.shift span.first)

/-- Methods are described span by span. -/
theorem methods_eq_mapM (tokens : List Token) :
    methods tokens = (methodSpans tokens).mapM (Method.ofSpan tokens) :=
  rfl

/-- The index of the name that follows the keyword of a function at an index. -/
def functionName? (tokens : List Token) (keyword : Nat) : Option Nat :=
  -- Closures have none.
  (functionNameOffset (tokens.drop (keyword + 1))).map (keyword + 1 + ·)

/-- The index of the brace that opens the body of a method whose parameters close at an index. -/
def bodyBrace? (tokens : List Token) (close : Nat) : Option Nat :=
  -- A semicolon that comes first means that there is no body.
  (findFrom (fun token => token.isSymbol '{' || token.isSymbol ';') tokens (close + 1)).filter
    fun index => tokens[index]?.any (Token.isSymbol '{')

section

variable {tokens : List Token} {parts : MethodParts} {first start stop close : Nat}
  {delimiter : Delimiter}

/-- Tokens that open no missing part are passed over by the reading of the parts. -/
theorem readParts_drop (begun : first ≤ start) (ordered : start ≤ stop)
    (short : stop ≤ tokens.length)
    (plain : ∀ index token, start ≤ index → index < stop → tokens[index]? = some token →
      parts.opens? token = none) :
    readParts parts (start - first) (tokens.drop start) =
      readParts parts (stop - first) (tokens.drop stop) := by
  -- Between the two places nothing opens a part, so the reader only moves on.
  have split : tokens.drop start = (tokens.drop start).take (stop - start) ++ tokens.drop stop := by
    rw [← Nat.add_sub_cancel' ordered, ← List.drop_drop, Nat.add_sub_cancel_left,
      List.take_append_drop]
  have passed : readParts parts (start - first) ((tokens.drop start).take (stop - start)) =
      .ok parts := by
    refine readParts_plain fun token listed => ?_
    obtain ⟨offset, present⟩ := List.getElem?_of_mem listed
    have near := (List.getElem?_eq_some_iff.mp present).1
    rw [List.length_take] at near
    rw [List.getElem?_take_of_lt (by omega), List.getElem?_drop] at present
    exact plain (start + offset) token (by omega) (by omega) present
  rw [split, readParts_append passed, List.length_take, List.length_drop,
    Nat.min_eq_left (by omega), show start - first + (stop - start) = stop - first by omega]

/-- A missing part that is closed is read whole, and the reading goes on behind it. -/
theorem readParts_closed (begun : first ≤ start)
    (present : tokens[start]? = some (.symbol delimiter.opener))
    (missing : parts.opens? (.symbol delimiter.opener) = some delimiter)
    (closed : closerAt? tokens start = some close) :
    readParts parts (start - first) (tokens.drop start) =
      readParts (parts.add delimiter (textOf (tokens.extract start (close + 1))))
        (close + 1 - first) (tokens.drop (close + 1)) := by
  -- The part is read from the cut list, and its walk is that of the whole list.
  have ahead := drop_eq_cons_of_getElem? present
  simp only [closerAt?, openedBy?_drop present] at closed
  obtain ⟨offset, walked, rfl⟩ := Option.map_eq_some_iff.mp closed
  rw [List.extract_eq_take_drop, show offset + start + 1 - start = offset + 1 by omega,
    show offset + start + 1 - first = start - first + offset + 1 by omega]
  rw [ahead] at walked ⊢
  rw [readParts, missing]
  simp only [walked, List.drop_drop]
  rw [show start + 1 + offset = offset + start + 1 by omega]

/-- A missing part that is never closed is where the reading fails. -/
theorem readParts_unclosed (present : tokens[start]? = some (.symbol delimiter.opener))
    (missing : parts.opens? (.symbol delimiter.opener) = some delimiter)
    (unclosed : closerAt? tokens start = none) :
    readParts parts (start - first) (tokens.drop start) =
      .error (.unclosed (start - first) delimiter) := by
  -- The reader finds what the walk finds, namely no closer.
  simp only [closerAt?, openedBy?_drop present, Option.map_eq_none_iff] at unclosed
  rw [drop_eq_cons_of_getElem? present] at unclosed ⊢
  rw [readParts, missing]
  simp only [unclosed]

/--
The parts behind a name are the first parenthesis and the first brace behind what it closes.

No brace may stand between the name and the parenthesis.
-/
theorem readParts_eq {parameters : Nat} (begun : first ≤ start)
    (opened : findFrom (Token.isSymbol '(') tokens start = some parameters)
    (orderly : ∀ index, start ≤ index → index < parameters →
      tokens[index]? ≠ some (.symbol '{')) :
    readParts {} (start - first) (tokens.drop start) =
      match closerAt? tokens parameters with
      | none => .error (.unclosed (parameters - first) .round)
      | some close =>
        match findFrom (Token.isSymbol '{') tokens (close + 1) with
        | none => .ok { parameters? := some (textOf (tokens.extract parameters (close + 1))) }
        | some brace =>
          match closerAt? tokens brace with
          | none => .error (.unclosed (brace - first) .curly)
          | some last =>
            .ok { parameters? := some (textOf (tokens.extract parameters (close + 1)))
                  body? := some (textOf (tokens.extract brace (last + 1))) } := by
  obtain ⟨ordered, ⟨token, present, parenthesis⟩, between⟩ := findFrom_spec opened
  obtain rfl := Token.isSymbol_iff.mp parenthesis
  -- Nothing opens a part before the parenthesis.
  rw [readParts_drop begun ordered (Nat.le_of_lt (findFrom_lt opened)) fun index token later before
    there => by
      have noBrace := orderly index later before
      rw [there, ne_eq, Option.some.injEq, ← Token.isSymbol_iff, Bool.not_eq_true] at noBrace
      simp [MethodParts.opens?, between index token later before there, noBrace]]
  have untouched : MethodParts.opens? {} (.symbol Delimiter.round.opener) = some .round := rfl
  cases closed : closerAt? tokens parameters with
  | none => exact readParts_unclosed present untouched closed
  | some close =>
    obtain ⟨_, -, later, -⟩ := closerAt?_spec closed
    rw [readParts_closed (by omega) present untouched closed]
    simp only [MethodParts.add]
    cases located : findFrom (Token.isSymbol '{') tokens (close + 1) with
    | none =>
      -- Without a brace nothing more is read.
      refine readParts_plain fun token listed => ?_
      obtain ⟨offset, standing⟩ := List.getElem?_of_mem listed
      cases brace : token.isSymbol '{' with
      | false => simp [MethodParts.opens?, brace]
      | true =>
        rw [List.getElem?_drop] at standing
        obtain ⟨_, -, found⟩ :=
          exists_findFrom_le (Nat.le_add_right (close + 1) offset) standing brace
        simp [located] at found
    | some brace =>
      obtain ⟨behind, ⟨token, standing, opens⟩, before⟩ := findFrom_spec located
      obtain rfl := Token.isSymbol_iff.mp opens
      rw [readParts_drop (by omega) behind (Nat.le_of_lt (findFrom_lt located))
        fun index token later earlier there => by
          simp [MethodParts.opens?, before index token later earlier there]]
      have missing : MethodParts.opens?
          { parameters? := some (textOf (tokens.extract parameters (close + 1))) }
          (.symbol Delimiter.curly.opener) = some .curly := rfl
      dsimp only
      cases ended : closerAt? tokens brace with
      | none => exact readParts_unclosed standing missing ended
      | some last =>
        obtain ⟨_, -, further, -⟩ := closerAt?_spec ended
        rw [readParts_closed (by omega) standing missing ended]
        refine readParts_plain fun token _ => ?_
        simp [MethodParts.opens?, MethodParts.add]

end

/-- A search that ends behind a later place ends there when it starts from that place. -/
theorem findFrom_of_le {test : Token → Bool} {tokens : List Token} {offset start index : Nat}
    (found : findFrom test tokens offset = some index) (later : offset ≤ start)
    (before : start ≤ index) : findFrom test tokens start = some index := by
  -- What lies between the later start and the result lies between the earlier one and it.
  obtain ⟨-, present, between⟩ := findFrom_spec found
  refine findFrom_eq_some_iff.mpr ⟨before, present, fun place token begun earlier standing => ?_⟩
  exact between place token (by omega) earlier standing

/-- A search that ends in front of a cut ends there when the tokens are cut off. -/
theorem findFrom_take {test : Token → Bool} {tokens : List Token} {offset index count : Nat}
    (found : findFrom test tokens offset = some index) (inside : index < count) :
    findFrom test (tokens.take count) offset = some index := by
  -- The search does not look behind its result.
  have short := findFrom_lt found
  rw [← List.take_append_drop count tokens] at found
  have kept : findFrom test (tokens.take count ++ []) offset = some index :=
    findFrom_within found (by rw [List.length_take]; omega)
  rwa [List.append_nil] at kept

/-- A search without a token that passes the test finds nothing. -/
theorem findFrom_eq_none {test : Token → Bool} {tokens : List Token} {offset : Nat}
    (fails : ∀ index token, offset ≤ index → tokens[index]? = some token → test token = false) :
    findFrom test tokens offset = none := by
  -- A result would be a token that passes.
  cases found : findFrom test tokens offset with
  | none => rfl
  | some index =>
    obtain ⟨begun, ⟨token, present, passes⟩, -⟩ := findFrom_spec found
    simp [fails index token begun present] at passes

/-- The brace of a body is the first brace or semicolon behind the parameters. -/
theorem bodyBrace?_eq_some_iff {tokens : List Token} {close brace : Nat} :
    bodyBrace? tokens close = some brace ↔
      findFrom (fun token => token.isSymbol '{' || token.isSymbol ';') tokens (close + 1) =
        some brace ∧ tokens[brace]? = some (.symbol '{') := by
  simp [bodyBrace?, Option.filter_eq_some_iff, Option.any_eq_true, Token.isSymbol_iff]

/-- The brace of a body is the first brace behind the parameters. -/
theorem findFrom_of_bodyBrace? {tokens : List Token} {close brace : Nat}
    (located : bodyBrace? tokens close = some brace) :
    findFrom (Token.isSymbol '{') tokens (close + 1) = some brace := by
  -- The first brace or semicolon is a brace, so it is the first brace.
  obtain ⟨found, present⟩ := bodyBrace?_eq_some_iff.mp located
  obtain ⟨begun, -, between⟩ := findFrom_spec found
  refine findFrom_eq_some_iff.mpr ⟨begun, ⟨_, present, rfl⟩,
    fun index token later before there => ?_⟩
  have neither := between index token later before there
  rw [Bool.or_eq_false_iff] at neither
  exact neither.1

/-- How a declaration with parameters at an index comes to its last token. -/
inductive DeclarationEnds (tokens : List Token) (parameters last : Nat) : Prop where
  /-- The parameters are never closed, and the declaration runs to the last token. -/
  | openParameters (unclosed : closerAt? tokens parameters = none)
      (whole : last + 1 = tokens.length)
  /-- There is no body, and no brace up to the end. -/
  | bodiless (close : Nat) (closed : closerAt? tokens parameters = some close)
      (behind : close ≤ last) (bodiless : bodyBrace? tokens close = none)
      (plain : ∀ index, close < index → index ≤ last → tokens[index]? ≠ some (.symbol '{'))
  /-- The body is never closed, and the declaration runs to the last token. -/
  | openBody (close brace : Nat) (closed : closerAt? tokens parameters = some close)
      (located : bodyBrace? tokens close = some brace) (unclosed : closerAt? tokens brace = none)
      (whole : last + 1 = tokens.length)
  /-- The declaration ends with its body. -/
  | body (close brace : Nat) (closed : closerAt? tokens parameters = some close)
      (located : bodyBrace? tokens close = some brace) (ended : closerAt? tokens brace = some last)

/-- The end of a declaration is reached in one of the four ways. -/
theorem declarationEnds {after : List Token} {parameters stop : Nat}
    (opened : after.findIdx? (Token.isSymbol '(') = some parameters)
    (ended : declarationEnd after = some stop) : DeclarationEnds after parameters stop := by
  have inside : parameters < after.length := by
    rw [findIdx?_eq_findFrom] at opened
    exact findFrom_lt opened
  simp only [declarationEnd, opened, Option.bind_eq_bind, Option.bind_some] at ended
  cases closed : closerAt? after parameters with
  | none =>
    simp only [closed, Option.bind_none, Option.some.injEq] at ended
    exact .openParameters closed (by omega)
  | some close =>
    obtain ⟨_, -, -, closes⟩ := closerAt?_spec closed
    have short := (List.getElem?_eq_some_iff.mp closes).1
    simp only [closed, Option.bind_some] at ended
    cases located : findFrom (fun token => token.isSymbol '{' || token.isSymbol ';') after
        (close + 1) with
    | none =>
      simp only [located, Option.some.injEq] at ended
      refine .bodiless close closed (by omega) (by rw [bodyBrace?, located]; rfl) ?_
      intro index later _ present
      have found : ∃ first ≤ index,
          findFrom (fun token => token.isSymbol '{' || token.isSymbol ';') after (close + 1) =
            some first := exists_findFrom_le later present rfl
      simp [located] at found
    | some body =>
      obtain ⟨behind, ⟨token, present, ends⟩, between⟩ := findFrom_spec located
      simp only [located, present, Option.any_some] at ended
      split at ended
      · -- A semicolon that comes first is the end.
        rename_i semicolon
        obtain rfl := Token.isSymbol_iff.mp semicolon
        obtain rfl := Option.some.inj ended
        refine .bodiless close closed (by omega) ?_ ?_
        · rw [bodyBrace?, located, Option.filter_some, present]
          rfl
        · intro index later bounded standing
          rcases Nat.lt_or_ge index body with before | same
          · simpa [Token.isSymbol] using between index _ later before standing
          · obtain rfl : index = body := by omega
            simp [present] at standing
      · rename_i noSemicolon
        have brace : token = .symbol '{' := by simpa [noSemicolon, Token.isSymbol_iff] using ends
        have opening : bodyBrace? after close = some body :=
          bodyBrace?_eq_some_iff.mpr ⟨located, by rw [present, brace]⟩
        cases walked : closerAt? after body with
        | none =>
          simp only [walked, Option.getD_none, Option.some.injEq] at ended
          exact .openBody close body closed opening walked (by omega)
        | some last =>
          simp only [walked, Option.getD_some, Option.some.injEq] at ended
          subst ended
          exact .body close body closed opening walked

/-- The brace of a body behind some tokens is the one in the whole list. -/
theorem bodyBrace?_drop (tokens : List Token) (count close : Nat) :
    bodyBrace? tokens (count + close) =
      (bodyBrace? (tokens.drop count) close).map (count + ·) := by
  -- The search and the test both move with the part that is dropped.
  rw [bodyBrace?, Nat.add_assoc, findFrom_drop, Option.filter_map]
  congr 2
  funext index
  rw [Function.comp_apply, List.getElem?_drop]

/-- How a declaration ends is seen alike behind some tokens and in the whole list. -/
theorem DeclarationEnds.of_drop {tokens : List Token} {count parameters last : Nat}
    (ends : DeclarationEnds (tokens.drop count) parameters last) :
    DeclarationEnds tokens (count + parameters) (count + last) := by
  -- Every way in which a declaration ends is kept when its indices are moved.
  cases ends with
  | openParameters unclosed whole =>
    rw [List.length_drop] at whole
    exact .openParameters (by rw [closerAt?_drop, unclosed]; rfl) (by omega)
  | bodiless close closed behind bodiless plain =>
    refine .bodiless (count + close) (by rw [closerAt?_drop, closed]; rfl) (by omega)
      (by rw [bodyBrace?_drop, bodiless]; rfl) fun index later bounded present => ?_
    refine plain (index - count) (by omega) (by omega) ?_
    rwa [List.getElem?_drop, Nat.add_sub_cancel' (by omega)]
  | openBody close brace closed located unclosed whole =>
    rw [List.length_drop] at whole
    exact .openBody (count + close) (count + brace) (by rw [closerAt?_drop, closed]; rfl)
      (by rw [bodyBrace?_drop, located]; rfl) (by rw [closerAt?_drop, unclosed]; rfl) (by omega)
  | body close brace closed located ended =>
    exact .body (count + close) (count + brace) (by rw [closerAt?_drop, closed]; rfl)
      (by rw [bodyBrace?_drop, located]; rfl) (by rw [closerAt?_drop, ended]; rfl)

/-- A piece of a list that ends in front of a cut is the same when the list is cut off. -/
theorem extract_take {tokens : List Token} {first stop count : Nat} (inside : stop ≤ count) :
    (tokens.take count).extract first stop = tokens.extract first stop := by
  rw [List.extract_eq_take_drop, List.extract_eq_take_drop, List.drop_take, List.take_take,
    Nat.min_eq_left (by omega)]

/--
The parts of a declaration that is cut off at its end are the ones seen in the whole list.

No brace may stand between the name and the parameters.
-/
theorem DeclarationEnds.readParts_eq {tokens : List Token} {start parameters last first : Nat}
    (ends : DeclarationEnds tokens parameters last) (short : last < tokens.length)
    (begun : first ≤ start) (opened : findFrom (Token.isSymbol '(') tokens start = some parameters)
    (within : parameters ≤ last)
    (orderly : ∀ index, start ≤ index → index < parameters →
      tokens[index]? ≠ some (.symbol '{')) :
    readParts {} (start - first) ((tokens.take (last + 1)).drop start) =
      match closerAt? tokens parameters with
      | none => .error (.unclosed (parameters - first) .round)
      | some close =>
        match bodyBrace? tokens close with
        | none => .ok { parameters? := some (textOf (tokens.extract parameters (close + 1))) }
        | some brace =>
          match closerAt? tokens brace with
          | none => .error (.unclosed (brace - first) .curly)
          | some _ =>
            .ok { parameters? := some (textOf (tokens.extract parameters (close + 1)))
                  body? := some (textOf (tokens.extract brace (last + 1))) } := by
  have openedHere := findFrom_take opened (Nat.lt_succ_of_le within)
  have orderlyHere : ∀ index, start ≤ index → index < parameters →
      (tokens.take (last + 1))[index]? ≠ some (.symbol '{') := by
    intro index later before
    rw [List.getElem?_take_of_lt (by omega)]
    exact orderly index later before
  -- In the part that is cut out the parts are read as in the whole list, one way of ending at a
  -- time.
  rw [PhpOutline.readParts_eq begun openedHere orderlyHere]
  cases ends with
  | openParameters unclosed whole =>
    rw [List.take_of_length_le (by omega)]
    simp only [unclosed]
  | bodiless close closed behind bodiless plain =>
    -- A brace behind the parameters would lie behind the end of the declaration.
    have noBrace : findFrom (Token.isSymbol '{') (tokens.take (last + 1)) (close + 1) = none := by
      refine findFrom_eq_none fun index token later present => ?_
      have bounded := (List.getElem?_eq_some_iff.mp present).1
      rw [List.length_take] at bounded
      rw [List.getElem?_take_of_lt (by omega)] at present
      rw [← Bool.not_eq_true, Token.isSymbol_iff]
      rintro rfl
      exact plain index later (by omega) present
    simp only [closed, closerAt?_take closed (Nat.lt_succ_of_le behind), bodiless, noBrace,
      extract_take (Nat.succ_le_succ behind)]
  | openBody close brace closed located unclosed whole =>
    rw [List.take_of_length_le (by omega)]
    simp only [closed, located, findFrom_of_bodyBrace? located, unclosed]
  | body close brace closed located ended =>
    -- Both parts are closed before the cut.
    have found := findFrom_of_bodyBrace? located
    obtain ⟨behind, -, -⟩ := findFrom_spec found
    obtain ⟨_, -, later, -⟩ := closerAt?_spec ended
    simp only [closed, closerAt?_take closed (show close < last + 1 by omega), located,
      findFrom_take found (show brace < last + 1 by omega), ended,
      closerAt?_take ended (Nat.lt_succ_self last),
      extract_take (show close + 1 ≤ last + 1 by omega), extract_take (Nat.le_refl (last + 1))]

/-- The name of a function is the first token that does not precede a name. -/
theorem eq_length_of_functionNameOffset {skipped rest : List Token} {named : Token} {offset : Nat}
    (skips : ∀ token ∈ skipped, token.precedesName = true) (names : named.namesFunction = true)
    (found : functionNameOffset (skipped ++ named :: rest) = some offset) :
    offset = skipped.length := by
  -- Before the name everything is skipped, and behind it the name itself would have been.
  obtain ⟨⟨own, standing, ownNames⟩, before⟩ := nameOffset_spec found
  rcases Nat.lt_trichotomy offset skipped.length with less | same | more
  · rw [List.getElem?_append_left less] at standing
    have precedes := skips own (List.mem_of_getElem? standing)
    simp [Token.precedesName_of_namesFunction ownNames] at precedes
  · exact same
  · have apart := Token.precedesName_of_namesFunction names
    rw [Token.precedesName, Bool.or_eq_false_iff] at apart
    rcases before skipped.length named more (by simp) with trivia | ampersand
    · simp [apart.1] at trivia
    · simp [ampersand, Token.isSymbol] at apart

/-- The span of a method is described by the parts that are read behind its name. -/
theorem Method.ofSpan_eq_map {tokens : List Token} {span : Span} {mark name : Nat}
    (listed : span ∈ methodSpans tokens) (marked : span.mark? = some mark)
    (located : functionName? tokens mark = some name) :
    ∃ lead named line, tokens[name]? = some named ∧ span.first ≤ name ∧
      Method.ofSpan tokens span =
        ((readParts {} (name + 1 - span.first) ((tokens.take (span.last + 1)).drop (name + 1))).map
          (Method.ofParts span.first lead named line)).mapError (Fault.shift span.first) := by
  obtain ⟨lead, keyword, skipped, named, rest, shape, place, leading, keyed, skips, names⟩ :=
    methodSpans_shape listed
  obtain rfl := Option.some.inj (marked.symm.trans place)
  obtain ⟨offset, found, rfl⟩ := Option.map_eq_some_iff.mp located
  have cut : (tokens.take (span.last + 1)).drop (span.first + (lead.length + 1)) =
      skipped ++ named :: rest := by
    rw [← List.drop_drop, show (tokens.take (span.last + 1)).drop span.first =
      lead ++ keyword :: (skipped ++ named :: rest) from shape, ← List.drop_drop, List.drop_left]
    rfl
  have inside : span.first + (lead.length + 1) < (tokens.take (span.last + 1)).length := by
    have long := congrArg List.length cut
    simp only [List.length_drop, List.length_append, List.length_cons] at long
    omega
  -- Behind the keyword the whole list starts like the span.
  have split : tokens.drop (span.first + (lead.length + 1)) =
      skipped ++ named :: (rest ++ tokens.drop (span.last + 1)) := by
    conv_lhs => rw [← List.take_append_drop (span.last + 1) tokens]
    rw [List.drop_append_of_le_length (Nat.le_of_lt inside), cut, List.append_assoc,
      List.cons_append]
  rw [Nat.add_assoc, split] at found
  obtain rfl := eq_length_of_functionNameOffset skips names found
  obtain ⟨line, started⟩ := exists_startLine? lead keyed
  refine ⟨lead, named, line, ?_, by omega, ?_⟩
  · rw [Nat.add_assoc span.first, ← List.getElem?_drop, split]
    simp
  · have behind : (tokens.take (span.last + 1)).drop
        (span.first + lead.length + 1 + skipped.length + 1) = rest := by
      rw [Nat.add_assoc span.first, ← List.drop_drop, ← List.drop_drop, cut, List.drop_left]
      rfl
    rw [behind, Method.ofSpan, show span.tokens tokens = _ from shape,
      Method.ofDeclaration_eq_map span.first leading keyed skips names started,
      show span.first + lead.length + 1 + skipped.length + 1 - span.first =
        lead.length + 1 + skipped.length + 1 by omega]

/--
The span of a method is described by the delimiters that are seen in the whole list.

No brace may stand between the name and the parameters.
-/
theorem Method.ofSpan_eq {tokens : List Token} {span : Span} {mark name parameters : Nat}
    (listed : span ∈ methodSpans tokens) (marked : span.mark? = some mark)
    (located : functionName? tokens mark = some name)
    (opened : findFrom (Token.isSymbol '(') tokens (mark + 1) = some parameters)
    (orderly : ∀ index, name < index → index < parameters →
      tokens[index]? ≠ some (.symbol '{')) :
    ∃ lead named line, tokens[name]? = some named ∧ span.first ≤ parameters ∧
      Method.ofSpan tokens span =
        match closerAt? tokens parameters with
        | none => .error (.unclosed parameters .round)
        | some close =>
          match bodyBrace? tokens close with
          | none => .ok (Method.ofParts span.first lead named line
              { parameters? := some (textOf (tokens.extract parameters (close + 1))) })
          | some brace =>
            match closerAt? tokens brace with
            | none => .error (.unclosed brace .curly)
            | some _ => .ok (Method.ofParts span.first lead named line
                { parameters? := some (textOf (tokens.extract parameters (close + 1)))
                  body? := some (textOf (tokens.extract brace (span.last + 1))) }) := by
  have bounded := (methodSpans_inOrder tokens).bounded span listed
  obtain ⟨own, keyword, offset, stop, ownMark, final, -, -, -, found, ended⟩ :=
    methodSpans_declaration listed
  obtain rfl := Option.some.inj (marked.symm.trans ownMark)
  obtain ⟨lead, named, line, present, begun, read⟩ := Method.ofSpan_eq_map listed marked located
  -- The name comes before the parameters, and these before the end.
  have place : mark + 1 + offset = name := by simpa [functionName?, found] using located
  have moved := opened
  rw [← Nat.add_zero (mark + 1), findFrom_drop, ← findIdx?_eq_findFrom] at moved
  obtain ⟨width, openedHere, same⟩ := Option.map_eq_some_iff.mp moved
  have named_lt := functionNameOffset_lt found openedHere
  have ends := (declarationEnds openedHere ended).of_drop
  rw [same, ← final] at ends
  obtain ⟨_, openedAgain, within, -, -⟩ := declarationEnd_spec ended
  obtain rfl := Option.some.inj (openedHere.symm.trans openedAgain)
  have ordered : name + 1 ≤ parameters := by omega
  refine ⟨lead, named, line, present, by omega, ?_⟩
  rw [read, ends.readParts_eq bounded.2 (by omega) (findFrom_of_le opened (by omega) ordered)
    (by omega) orderly]
  cases closed : closerAt? tokens parameters with
  | none =>
    simp only [Except.map, Except.mapError, Fault.shift]
    rw [Nat.sub_add_cancel (by omega)]
  | some close =>
    dsimp only
    cases opening : bodyBrace? tokens close with
    | none => rfl
    | some brace =>
      dsimp only
      cases closerAt? tokens brace with
      | some last => rfl
      | none =>
        obtain ⟨_, -, later, -⟩ := closerAt?_spec closed
        obtain ⟨behind, -, -⟩ := findFrom_spec (findFrom_of_bodyBrace? opening)
        simp only [Except.map, Except.mapError, Fault.shift]
        rw [Nat.sub_add_cancel (by omega)]

/-- A method whose texts are those of pieces of the list, with parameters that close at an index. -/
structure Method.CutFrom (tokens : List Token) (span : Span) (name parameters close : Nat)
    (method : Method) : Prop where
  /-- The name is the text of its token. -/
  name_eq : ∃ named, tokens[name]? = some named ∧ method.name = named.text
  /-- The parameters reach from their parenthesis to the one that closes it. -/
  parameters_eq : method.parameters = textOf (tokens.extract parameters (close + 1))
  /-- The body reaches from its brace to the end of the span. -/
  content_eq : ∀ brace, bodyBrace? tokens close = some brace →
    method.content = textOf (tokens.extract brace (span.last + 1))
  /-- Without a body there is no text. -/
  content_empty : bodyBrace? tokens close = none → method.content = ""
  /-- The text of the span ends with the body. -/
  text_eq : ∃ front, span.text tokens = front ++ method.content

/-- A span whose method is described by the delimiters that are seen in the whole list. -/
structure CutAtDelimiters (tokens : List Token) (span : Span) (name parameters : Nat) : Prop where
  /-- A method is described exactly when its parameters are closed, and its body if it has one. -/
  succeeds_iff : (∃ method, Method.ofSpan tokens span = .ok method) ↔
    ∃ close, closerAt? tokens parameters = some close ∧
      ∀ brace, bodyBrace? tokens close = some brace → ∃ last, closerAt? tokens brace = some last
  /-- The texts of a method that is described are cut at these delimiters. -/
  texts : ∀ method close, Method.ofSpan tokens span = .ok method →
    closerAt? tokens parameters = some close → method.CutFrom tokens span name parameters close
  /-- Parameters that are never closed are where the description fails. -/
  parameters_unclosed : closerAt? tokens parameters = none →
    Method.ofSpan tokens span = .error (.unclosed parameters .round)
  /-- A body that is never closed is where it fails otherwise. -/
  body_unclosed : ∀ close brace, closerAt? tokens parameters = some close →
    bodyBrace? tokens close = some brace → closerAt? tokens brace = none →
    Method.ofSpan tokens span = .error (.unclosed brace .curly)

/-- The text of a span ends with the text from an index in it on. -/
theorem Span.text_eq_append {span : Span} {index : Nat} (tokens : List Token)
    (inside : span.first ≤ index) :
    ∃ front, span.text tokens = front ++ textOf (tokens.extract index (span.last + 1)) := by
  -- The text from the index on is the end of the text of the span.
  refine ⟨textOf ((span.tokens tokens).take (index - span.first)), ?_⟩
  have tail : (span.tokens tokens).drop (index - span.first) =
      tokens.extract index (span.last + 1) := by
    rw [Span.tokens, List.drop_drop, Nat.add_sub_cancel' inside, List.drop_take,
      List.extract_eq_take_drop]
  rw [Span.text, ← textOf_append, ← tail, List.take_append_drop]

/-- Methods without a brace before their parameters are cut at their delimiters. -/
theorem cutAtDelimiters {tokens : List Token} {span : Span} {mark name parameters : Nat}
    (listed : span ∈ methodSpans tokens) (marked : span.mark? = some mark)
    (located : functionName? tokens mark = some name)
    (opened : findFrom (Token.isSymbol '(') tokens (mark + 1) = some parameters)
    (orderly : ∀ index, name < index → index < parameters →
      tokens[index]? ≠ some (.symbol '{')) :
    CutAtDelimiters tokens span name parameters := by
  obtain ⟨lead, named, line, present, begun, read⟩ :=
    Method.ofSpan_eq listed marked located opened orderly
  refine ⟨?succeeds, ?texts, ?parameters, ?body⟩
  case succeeds =>
    -- The record is made exactly when each part that is opened is closed.
    rw [read]
    cases closed : closerAt? tokens parameters with
    | none => simp
    | some close =>
      cases opening : bodyBrace? tokens close with
      | none => simp [opening]
      | some brace => cases ended : closerAt? tokens brace <;> simp [opening, ended]
  case texts =>
    intro method close described closed
    rw [read, closed] at described
    cases opening : bodyBrace? tokens close with
    -- Without a brace there is no body, and the text of the span ends with the empty one.
    | none =>
      simp only [opening, Except.ok.injEq] at described
      subst described
      exact
        { name_eq := ⟨named, present, rfl⟩
          parameters_eq := rfl
          content_eq := fun brace other => by simp [opening] at other
          content_empty := fun _ => rfl
          text_eq := ⟨span.text tokens, String.append_empty.symm⟩ }
    | some brace =>
      obtain ⟨_, -, later, -⟩ := closerAt?_spec closed
      obtain ⟨behind, -, -⟩ := findFrom_spec (findFrom_of_bodyBrace? opening)
      cases ended : closerAt? tokens brace with
      | none => simp [opening, ended] at described
      | some last =>
        simp only [opening, ended, Except.ok.injEq] at described
        subst described
        -- With a body the span ends at its closer, so the body ends the text.
        exact
          { name_eq := ⟨named, present, rfl⟩
            parameters_eq := rfl
            content_eq := fun other same => by
              obtain rfl := Option.some.inj (opening.symm.trans same)
              rfl
            content_empty := fun missing => by simp [opening] at missing
            text_eq := span.text_eq_append tokens (by omega) }
  case parameters =>
    intro unclosed
    rw [read, unclosed]
  case body =>
    intro close brace closed opening unclosed
    rw [read, closed]
    simp only [opening, unclosed]

/--
Methods are described by the delimiters that are seen in the whole list.

Every method has a mark, a name behind it and parameters behind the name.
Where all of them are described, there is one record for each span, in order.
-/
theorem methods_cut_at_delimiters (tokens : List Token) :
    (∀ span ∈ methodSpans tokens, ∃ mark name parameters, span.mark? = some mark ∧
      functionName? tokens mark = some name ∧
      findFrom (Token.isSymbol '(') tokens (mark + 1) = some parameters ∧
      ((∀ index, name < index → index < parameters → tokens[index]? ≠ some (.symbol '{')) →
        CutAtDelimiters tokens span name parameters)) ∧
    ∀ records, methods tokens = .ok records →
      List.Forall₂ (fun span record => Method.ofSpan tokens span = .ok record ∧
        record.firstIndex = span.first) (methodSpans tokens) records := by
  refine ⟨fun span listed => ?_, fun records described => ?_⟩
  · obtain ⟨mark, keyword, offset, stop, marked, -, -, -, -, found, ended⟩ :=
      methodSpans_declaration listed
    obtain ⟨width, openedHere, -, -, -⟩ := declarationEnd_spec ended
    -- The name and the parenthesis are those that the sweep went by, counted from the start.
    have located : functionName? tokens mark = some (mark + 1 + offset) := by
      rw [functionName?, found]
      rfl
    have opened : findFrom (Token.isSymbol '(') tokens (mark + 1) = some (mark + 1 + width) := by
      rw [← Nat.add_zero (mark + 1), findFrom_drop, ← findIdx?_eq_findFrom, openedHere]
      rfl
    exact ⟨mark, mark + 1 + offset, mark + 1 + width, marked, located, opened,
      cutAtDelimiters listed marked located opened⟩
  · rw [methods_eq_mapM] at described
    refine forall₂_of_mapM_eq_ok (fun span _ record read => ?_) described
    exact ⟨read, Method.firstIndex_of_ofDeclaration (mapError_eq_ok_iff.mp read)⟩

/--
A function returned by reference, with a call in its parameters and a closure in its body.

Its texts are cut at the outer delimiters, and without its last brace it is not described.
-/
theorem methods_cut_at_delimiters_reference :
    let tokens : List Token :=
      [.typed .docComment "/** f */" 1, .typed (.word .publicWord) "public" 2,
       .typed (.word .functionWord) "function" 2, .symbol '&', .typed .comment "/* ( */" 2,
       .typed .identifier "f" 2, .typed .whitespace " " 2, .symbol '(', .typed .variableName "$a" 2,
       .symbol '=', .typed .identifier "g" 2, .symbol '(', .symbol ')', .symbol ')', .symbol ':',
       .typed .identifier "T" 2, .symbol '\x7b', .typed .variableName "$b" 3, .symbol '=',
       .typed (.word .functionWord) "function" 3, .symbol '(', .symbol ')', .symbol '\x7b',
       .symbol '\x7d', .symbol ';', .symbol '\x7d']
    methodSpans tokens = [⟨0, 25, some 2⟩] ∧
      (∃ method, Method.ofSpan tokens ⟨0, 25, some 2⟩ = .ok method ∧ method.name = "f" ∧
        method.parameters = textOf (tokens.extract 7 14) ∧
        method.content = textOf (tokens.extract 16 26)) ∧
      methodSpans tokens.dropLast = [⟨0, 24, some 2⟩] ∧
      Method.ofSpan tokens.dropLast ⟨0, 24, some 2⟩ = .error (.unclosed 16 .curly) := by
  intro tokens
  have found : methodSpans tokens = [⟨0, 25, some 2⟩] := by
    unfold tokens
    cbv
  have broken : methodSpans tokens.dropLast = [⟨0, 24, some 2⟩] := by
    unfold tokens
    cbv
  refine ⟨found, ?_, broken, ?_⟩
  · obtain ⟨mark, name, parameters, marked, located, opened, cut⟩ :=
      (methods_cut_at_delimiters tokens).1 ⟨0, 25, some 2⟩ (by rw [found]; simp)
    obtain rfl := Option.some.inj marked
    obtain rfl : 5 = name := Option.some.inj located
    obtain rfl : 7 = parameters := Option.some.inj opened
    -- Only an opening part stands between the name and the parenthesis, and it is no brace.
    have whole := cut fun index later before => by
      obtain rfl : index = 6 := by omega
      decide
    obtain ⟨method, described⟩ := whole.succeeds_iff.mpr ⟨13, rfl, fun brace opening => by
      obtain rfl : 16 = brace := Option.some.inj opening
      exact ⟨25, rfl⟩⟩
    have texts := whole.texts method 13 described rfl
    obtain ⟨named, present, same⟩ := texts.name_eq
    obtain rfl := Option.some.inj present
    exact ⟨method, described, same, texts.parameters_eq, texts.content_eq 16 rfl⟩
  · obtain ⟨mark, name, parameters, marked, located, opened, cut⟩ :=
      (methods_cut_at_delimiters tokens.dropLast).1 ⟨0, 24, some 2⟩ (by rw [broken]; simp)
    obtain rfl := Option.some.inj marked
    obtain rfl : 5 = name := Option.some.inj located
    obtain rfl : 7 = parameters := Option.some.inj opened
    have whole := cut fun index later before => by
      obtain rfl : index = 6 := by omega
      decide
    exact whole.body_unclosed 13 16 rfl rfl rfl

end PhpOutline
