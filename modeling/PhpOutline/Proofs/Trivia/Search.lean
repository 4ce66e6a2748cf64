import PhpOutline.Proofs.SpanOrder
import PhpOutline.Proofs.Trivia.Bare

/-!
Searches find the same tokens whether or not trivia stands between them.

Each statement compares what a search answers on a list with what it answers on its bare tokens.
An answer that is the index of a token goes to the place of that token.
-/

namespace PhpOutline

/-- A structural test is first passed by the same token. -/
theorem findIdx?_bare {test : Token → Bool} (structural : Structural test) (tokens : List Token) :
    (bare tokens).findIdx? test = (tokens.findIdx? test).map (bareIndex tokens) := by
  induction tokens with
  | nil => rfl
  | cons token rest ih =>
    cases trivia : token.isTrivia with
    -- The search passes over trivia, which takes no place among the bare tokens.
    | true =>
      rw [bare_cons_of_trivia trivia, List.findIdx?_cons, structural.trivia token trivia, ih]
      simp [Function.comp_def, bareIndex_cons_of_trivia trivia]
    -- The test does not see the line, so it decides the same about the bare token.
    | false =>
      rw [bare_cons_of_significant trivia, List.findIdx?_cons, List.findIdx?_cons,
        structural.unlined, ih]
      cases test token <;> simp [Function.comp_def, bareIndex_cons_of_significant trivia]

/-- A structural search from an offset finds the same token. -/
theorem findFrom_bare {test : Token → Bool} (structural : Structural test) (tokens : List Token)
    (offset : Nat) :
    findFrom test (bare tokens) (bareIndex tokens offset) =
      (findFrom test tokens offset).map (bareIndex tokens) := by
  -- Searching from an offset is searching the rest of the list, and the offset adds to the result.
  rw [findFrom, findFrom, ← bare_drop, findIdx?_bare structural, Option.map_map, Option.map_map]
  congr 1
  funext further
  simp [Function.comp_apply, bareIndex_add, Nat.add_comm]

/-- The next significant token is the same. -/
theorem significantFrom_bare (tokens : List Token) (offset : Nat) :
    significantFrom (bare tokens) (bareIndex tokens offset) =
      (significantFrom tokens offset).map (bareIndex tokens) :=
  findFrom_bare Structural.noTrivia tokens offset

/-- The next significant token is no trivia. -/
theorem significantFrom_spec {tokens : List Token} {offset index : Nat}
    (found : significantFrom tokens offset = some index) :
    ∃ token, tokens[index]? = some token ∧ token.isTrivia = false := by
  -- The search for a significant token is a search by a test, and its result passes the test.
  rw [significantFrom_eq_findFrom] at found
  obtain ⟨-, ⟨token, present, significant⟩, -⟩ := findFrom_spec found
  exact ⟨token, present, by simpa using significant⟩

/-- The name after a declaring keyword is the same token. -/
theorem nameOffset_bare {accept : Token → Bool} (structural : Structural accept)
    (after : List Token) :
    nameOffset accept (bare after) = (nameOffset accept after).map (bareIndex after) := by
  -- Once a significant token is found, the tests on it and on its bare form agree.
  have tested : ∀ offset token, after[offset]? = some token → token.isTrivia = false →
      (if (bare after)[bareIndex after offset]?.any accept then some (bareIndex after offset)
        else none) =
        (if after[offset]?.any accept then some offset else none).map (bareIndex after) := by
    intro offset token present significant
    rw [getElem?_bare present significant, present, Option.any_some, Option.any_some,
      structural.unlined]
    cases accept token <;> rfl
  have start := significantFrom_bare after 0
  rw [bareIndex_zero] at start
  simp only [nameOffset, Option.bind_eq_bind, start]
  cases located : significantFrom after 0 with
  | none => rfl
  | some first =>
    obtain ⟨token, present, significant⟩ := significantFrom_spec located
    simp only [Option.map_some, Option.bind_some, getElem?_bare present significant, present,
      Option.any_some, Token.isSymbol_unlined]
    cases ampersand : token.isSymbol '&' with
    | false =>
      have agreed := tested first token present significant
      rw [getElem?_bare present significant, present] at agreed
      simpa [getElem?_bare present significant, present] using agreed
    | true =>
      have onward := significantFrom_bare after (first + 1)
      rw [bareIndex_succ_of_significant present significant] at onward
      simp only [if_true, onward]
      cases further : significantFrom after (first + 1) with
      | none => rfl
      | some second =>
        obtain ⟨named, standing, shown⟩ := significantFrom_spec further
        simpa using tested second named standing shown

/-- The name of a class is the same token. -/
theorem classNameOffset_bare (after : List Token) :
    classNameOffset (bare after) = (classNameOffset after).map (bareIndex after) :=
  nameOffset_bare Structural.namesClass after

/-- The name of a function is the same token. -/
theorem functionNameOffset_bare (after : List Token) :
    functionNameOffset (bare after) = (functionNameOffset after).map (bareIndex after) :=
  nameOffset_bare Structural.namesFunction after

/-- A walk to a closing delimiter ends on the same token. -/
theorem closerFrom_bare (delimiter : Delimiter) (depth : Nat) (tokens : List Token) :
    closerFrom delimiter depth (bare tokens) =
      (closerFrom delimiter depth tokens).map (bareIndex tokens) := by
  -- Trivia neither opens nor closes, so the depth is the same at every other token.
  induction tokens generalizing depth with
  | nil => rfl
  | cons token rest ih =>
    cases trivia : token.isTrivia with
    | true =>
      have neither := fun char => (Structural.symbol char).trivia token trivia
      rw [bare_cons_of_trivia trivia, ih]
      simp [closerFrom, neither, Function.comp_def, bareIndex_cons_of_trivia trivia]
    | false =>
      rw [bare_cons_of_significant trivia]
      simp only [closerFrom, Token.isSymbol_unlined, ih]
      cases token.isSymbol delimiter.opener <;> cases token.isSymbol delimiter.closer <;>
        by_cases last : depth ≤ 1 <;>
        simp [last, Function.comp_def, bareIndex_cons_of_significant trivia]

/-- A walk from an opening delimiter ends on the same token. -/
theorem closerOffset?_bare (delimiter : Delimiter) (tokens : List Token) :
    closerOffset? delimiter (bare tokens) =
      (closerOffset? delimiter tokens).map (bareIndex tokens) :=
  closerFrom_bare delimiter 0 tokens

/-- What follows the token that closes a part is bare alike. -/
theorem bare_drop_closer {delimiter : Delimiter} {rest : List Token} {offset : Nat}
    (closed : closerOffset? delimiter (.symbol delimiter.opener :: rest) = some offset) :
    (bare rest).drop (bareIndex (.symbol delimiter.opener :: rest) offset) =
      bare (rest.drop offset) := by
  -- The opener in front takes one place in either list, so the cut is that behind the closer.
  have cut := bare_drop (.symbol delimiter.opener :: rest) (offset + 1)
  rw [bareIndex_succ_of_significant (getElem?_of_closerFrom closed) rfl,
    bare_cons_of_significant rfl, List.drop_succ_cons, List.drop_succ_cons] at cut
  exact cut.symm

/-- The pair that a significant token opens is the pair that its bare form opens. -/
theorem openedBy?_bare {token : Token} (significant : token.isTrivia = false) (rest : List Token) :
    openedBy? (bare (token :: rest)) = openedBy? (token :: rest) := by
  rw [bare_cons_of_significant significant]
  cases token <;> rfl

/-- A part that a significant token opens is closed by the same token. -/
theorem closerAt?_bare {tokens : List Token} {offset : Nat} {token : Token}
    (present : tokens[offset]? = some token) (significant : token.isTrivia = false) :
    closerAt? (bare tokens) (bareIndex tokens offset) =
      (closerAt? tokens offset).map (bareIndex tokens) := by
  obtain ⟨inside, rfl⟩ := List.getElem?_eq_some_iff.mp present
  simp only [closerAt?, ← bare_drop]
  rw [List.drop_eq_getElem_cons inside, openedBy?_bare significant]
  cases openedBy? (tokens[offset] :: tokens.drop (offset + 1)) with
  | none => rfl
  -- The walk from the opener is counted from the offset, so both results are moved by it.
  | some delimiter =>
    simp only [closerOffset?, closerFrom_bare, Option.map_map]
    congr 1
    funext further
    rw [← List.drop_eq_getElem_cons inside]
    simp [Function.comp_apply, bareIndex_add, Nat.add_comm]

/-- The place of the last token of a range that ends with an index. -/
def bareLast (tokens : List Token) (index : Nat) : Nat :=
  -- The range may end on trivia, and then the token before it is the last one.
  bareIndex tokens (index + 1) - 1

/-- A range that ends on a significant token ends at the place of that token. -/
theorem bareLast_of_significant {tokens : List Token} {index : Nat} {token : Token}
    (present : tokens[index]? = some token) (significant : token.isTrivia = false) :
    bareLast tokens index = bareIndex tokens index := by
  rw [bareLast, bareIndex_succ_of_significant present significant, Nat.add_sub_cancel]

/-- A range that ends with the list ends on the last of the bare tokens. -/
theorem bareLast_length {tokens : List Token} (nonempty : 0 < tokens.length) :
    bareLast tokens (tokens.length - 1) = (bare tokens).length - 1 := by
  rw [bareLast, bareIndex_of_length_le (by omega)]

/-- A declaration ends on the same token, or with the list. -/
theorem declarationEnd_bare (after : List Token) :
    declarationEnd (bare after) = (declarationEnd after).map (bareLast after) := by
  simp only [declarationEnd, findIdx?_bare (Structural.symbol '('), Option.bind_eq_bind]
  cases opened : after.findIdx? (Token.isSymbol '(') with
  | none => rfl
  | some parameters =>
    rw [findIdx?_eq_findFrom] at opened
    obtain ⟨-, ⟨opener, present, opens⟩, -⟩ := findFrom_spec opened
    have ending := bareLast_length (Nat.zero_lt_of_lt (findFrom_lt opened))
    simp only [Option.map_some, Option.bind_some,
      closerAt?_bare present ((Structural.symbol '(').significant opens)]
    cases closed : closerAt? after parameters with
    | none => simp [ending]
    | some close =>
      obtain ⟨delimiter, -, -, closes⟩ := closerAt?_spec closed
      -- The search for the end starts behind the parenthesis that closes the parameters.
      have onward := findFrom_bare (.or (.symbol '{') (.symbol ';')) after (close + 1)
      rw [bareIndex_succ_of_significant closes rfl] at onward
      simp only [Option.map_some, Option.bind_some, onward]
      cases reached : findFrom (fun token => token.isSymbol '{' || token.isSymbol ';') after
          (close + 1) with
      | none => simp [ending]
      | some stop =>
        obtain ⟨-, ⟨token, standing, ends⟩, -⟩ := findFrom_spec reached
        have significant := (Structural.or (.symbol '{') (.symbol ';')).significant ends
        simp only [Option.map_some, getElem?_bare standing significant, standing, Option.any_some,
          Token.isSymbol_unlined, closerAt?_bare standing significant]
        cases token.isSymbol ';' with
        | true => simp [bareLast_of_significant standing significant]
        | false =>
          cases body : closerAt? after stop with
          | none => simp [ending]
          | some last =>
            obtain ⟨_, -, -, brace⟩ := closerAt?_spec body
            simp [bareLast_of_significant brace rfl]

/-- The nearest significant token behind a site is the nearest bare one. -/
theorem significantBehind_bare (behind : List Token) :
    significantBehind (bare behind) = (significantBehind behind).map Token.unlined := by
  -- The first token behind that is no trivia is the first of the bare tokens.
  simp only [significantBehind]
  induction behind with
  | nil => rfl
  | cons token rest ih =>
    cases trivia : token.isTrivia with
    | true => rw [bare_cons_of_trivia trivia, ih, List.find?_cons_of_neg (by simp [trivia])]
    | false =>
      rw [bare_cons_of_significant trivia, List.find?_cons_of_pos (by simp [trivia]),
        List.find?_cons_of_pos (by simp [trivia]), Option.map_some]

/-- What the nearest significant token passes, its bare form passes too. -/
theorem any_significantBehind_bare {test : Token → Bool}
    (unlined : ∀ token : Token, test token.unlined = test token) (behind : List Token) :
    (significantBehind (bare behind)).any test = (significantBehind behind).any test := by
  -- Both look at the same token, up to a line that the test does not see.
  rw [significantBehind_bare]
  cases significantBehind behind with
  | none => rfl
  | some token => simp [unlined]

/-- The mark of an import is seen through trivia. -/
theorem followsUse_bare (behind : List Token) : followsUse (bare behind) = followsUse behind :=
  any_significantBehind_bare (Token.isWord_unlined .useWord) behind

/-- A statement starts after the same tokens. -/
theorem startsStatementFrom_bare (depth : Nat) (behind : List Token) :
    startsStatementFrom depth (bare behind) = startsStatementFrom depth behind := by
  -- Trivia is skipped outside attributes, and is no bracket inside them.
  induction behind generalizing depth with
  | nil => rfl
  | cons token rest ih =>
    cases trivia : token.isTrivia with
    | true =>
      have noSymbol := fun char => (Structural.symbol char).trivia token trivia
      have noAttribute : token.isKind .attributeOpen = false :=
        (Structural.kind ⟨by simp, rfl⟩).trivia token trivia
      rw [bare_cons_of_trivia trivia]
      cases depth <;> simp [startsStatementFrom, trivia, noSymbol, noAttribute, ih]
    | false =>
      rw [bare_cons_of_significant trivia]
      cases depth <;> simp [startsStatementFrom, trivia, ih, Token.endsStatement]

/-- White space at the front leaves no bare tokens. -/
theorem bare_dropWhile_whitespace (tokens : List Token) :
    bare (tokens.dropWhile (Token.isKind .whitespace)) = bare tokens := by
  -- White space is trivia, so dropping it leaves the same bare tokens.
  induction tokens with
  | nil => rfl
  | cons token rest ih =>
    cases blank : token.isKind .whitespace with
    | false => rw [List.dropWhile_cons_of_neg (by simp [blank])]
    | true =>
      obtain ⟨text, line, rfl⟩ := Token.isKind_iff.mp blank
      rw [List.dropWhile_cons_of_pos blank, ih, bare_cons_of_trivia rfl]

/-- Among bare tokens there is no white space to drop. -/
theorem dropWhile_whitespace_bare (tokens : List Token) :
    (bare tokens).dropWhile (Token.isKind .whitespace) = bare tokens := by
  cases kept : bare tokens with
  | nil => rfl
  | cons token rest =>
    -- The first bare token is no trivia, and so no white space either.
    have member : token ∈ bare tokens := by simp [kept]
    have significant := isTrivia_of_mem_bare member
    rw [List.dropWhile_cons_of_neg]
    intro blank
    obtain ⟨text, line, rfl⟩ := Token.isKind_iff.mp blank
    simp [Token.isTrivia] at significant

/-- The leading part of a declaration is its run of comments and modifiers, without white space. -/
theorem take_leadingLength (isModifier : Token → Bool) (behind : List Token) :
    behind.take (leadingLength isModifier behind) =
      ((behind.takeWhile (Token.leads isModifier)).reverse.dropWhile
        (Token.isKind .whitespace)).reverse := by
  -- What leads a declaration is the run of leading tokens behind without the white space at its far
  -- end.
  have kept : ((behind.takeWhile (Token.leads isModifier)).reverse.dropWhile
      (Token.isKind .whitespace)).reverse <+: behind := by
    refine List.IsPrefix.trans ?_ (List.takeWhile_prefix (Token.leads isModifier))
    rw [← List.reverse_suffix, List.reverse_reverse]
    exact List.dropWhile_suffix _
  -- A part at the front of a list is the list cut to the length of the part.
  have cut := List.prefix_iff_eq_take.mp kept
  rw [List.length_reverse] at cut
  exact cut.symm

/-- The modifiers in front of a declaration are the same. -/
theorem leadingLength_bare {isModifier : Token → Bool}
    (unlined : ∀ token : Token, isModifier token.unlined = isModifier token) (behind : List Token) :
    leadingLength isModifier (bare behind) =
      bareIndex behind (leadingLength isModifier behind) := by
  -- White space never counts among the bare tokens, so dropping it on one side is harmless.
  have run : bare (behind.takeWhile (Token.leads isModifier)) =
      (bare behind).takeWhile (Token.leads isModifier) :=
    bare_takeWhile (fun token trivia => by simp [Token.leads, trivia])
      (fun token => by simp [Token.leads, unlined]) behind
  calc leadingLength isModifier (bare behind)
      = ((bare (behind.takeWhile (Token.leads isModifier)).reverse).dropWhile
          (Token.isKind .whitespace)).length := by
        rw [bare_reverse, run]
        rfl
    _ = (bare (behind.takeWhile (Token.leads isModifier)).reverse).length := by
        rw [dropWhile_whitespace_bare]
    _ = bareIndex behind (leadingLength isModifier behind) := by
        simp [bareIndex, take_leadingLength, bare_dropWhile_whitespace]

/-- A reading with its offset changed. -/
def Reading.map (place : Nat → Nat) : Reading → Reading
  -- Only what was found has an offset.
  | .found offset => .found (place offset)
  | reading => reading

/-- Changing the offset of a reading that was moved changes the offset it has then. -/
theorem Reading.map_shift {place other : Nat → Nat} {count moved : Nat}
    (agrees : ∀ offset, place (offset + count) = other offset + moved) (reading : Reading) :
    (reading.shift count).map place = (reading.map other).shift moved := by
  cases reading <;> simp [Reading.shift, Reading.map, agrees]

/-- Trivia in front of what is read does not count. -/
theorem Reading.map_shift_of_trivia {token : Token} (trivia : token.isTrivia = true)
    (rest : List Token) (reading : Reading) :
    (reading.shift 1).map (bareIndex (token :: rest)) = reading.map (bareIndex rest) := by
  cases reading <;> simp [Reading.shift, Reading.map, bareIndex_cons_of_trivia trivia]

/-- What may precede a variable does not depend on lines. -/
@[simp] theorem Token.precedesVariable_unlined (token : Token) :
    token.unlined.precedesVariable = token.precedesVariable := by
  simp [Token.precedesVariable, Token.isPropertyModifier]

/-- The variable of a property is the same token. -/
theorem variableReading_bare (tokens : List Token) :
    variableReading (bare tokens) = (variableReading tokens).map (bareIndex tokens) := by
  induction tokens with
  | nil => rfl
  | cons token rest ih =>
    cases trivia : token.isTrivia with
    -- Trivia neither is the variable nor keeps it from being found, and takes no place.
    | true =>
      have noVariable := Structural.variableName.trivia token trivia
      have precedes : token.precedesVariable = true := by simp [Token.precedesVariable, trivia]
      rw [bare_cons_of_trivia trivia, ih]
      simp only [variableReading, noVariable, precedes, Bool.false_eq_true, if_false, if_true]
      rw [Reading.map_shift_of_trivia trivia]
    | false =>
      rw [bare_cons_of_significant trivia]
      simp only [variableReading, Token.isKind_unlined, Token.precedesVariable_unlined, ih]
      -- Any other token is read the same without its line.
      cases token.isKind .variableName with
      | true => simp [Reading.map]
      | false =>
        cases token.precedesVariable with
        | true => simp [Reading.map_shift (bareIndex_cons_of_significant trivia rest)]
        | false => rfl

/-- The semicolon that ends a property is the same token. -/
theorem semicolonReading_bare (tokens : List Token) :
    semicolonReading (bare tokens) = (semicolonReading tokens).map (bareIndex tokens) := by
  -- A nested part is leapt over up to its closer, which is no trivia.
  fun_induction semicolonReading tokens with
  | case1 => simp [semicolonReading, Reading.map]
  | case2 token rest semicolon =>
    have significant := (Structural.symbol ';').significant semicolon
    rw [bare_cons_of_significant significant, semicolonReading]
    simp [semicolon, Reading.map]
  | case3 token rest other delimiter opened offset closed ih =>
    obtain ⟨_, front⟩ := openedBy?_eq_some_iff.mp opened
    obtain rfl := (List.cons.inj front).1
    have walked := closerOffset?_bare delimiter (.symbol delimiter.opener :: rest)
    have place := bareIndex_succ_of_significant (getElem?_of_closerFrom closed) rfl
    rw [← openedBy?_bare rfl] at opened
    rw [bare_cons_of_significant rfl] at walked opened ⊢
    rw [semicolonReading, if_neg (by simpa using other), opened]
    simp only [walked, closed, Option.map_some, bare_drop_closer closed, ih]
    refine (Reading.map_shift (fun further => ?_) _).symm
    rw [Nat.add_comm further, bareIndex_add, place, List.drop_succ_cons, Nat.add_comm]
  | case4 token rest other delimiter opened unclosed =>
    obtain ⟨_, front⟩ := openedBy?_eq_some_iff.mp opened
    obtain rfl := (List.cons.inj front).1
    have walked := closerOffset?_bare delimiter (.symbol delimiter.opener :: rest)
    rw [← openedBy?_bare rfl] at opened
    rw [bare_cons_of_significant rfl] at walked opened ⊢
    rw [semicolonReading, if_neg (by simpa using other), opened]
    simp only [walked, unclosed, Option.map_none, Reading.map]
  | case5 token rest other unopened brace =>
    have significant := (Structural.symbol '}').significant brace
    rw [← openedBy?_bare significant] at unopened
    rw [bare_cons_of_significant significant] at unopened ⊢
    rw [semicolonReading, if_neg (by simpa using other), unopened]
    simp [brace, Reading.map]
  | case6 token rest other unopened inner ih =>
    cases trivia : token.isTrivia with
    | true => rw [bare_cons_of_trivia trivia, ih, Reading.map_shift_of_trivia trivia]
    | false =>
      rw [← openedBy?_bare trivia] at unopened
      rw [bare_cons_of_significant trivia] at unopened ⊢
      rw [semicolonReading, if_neg (by simpa using other), unopened]
      simp [inner, ih, Reading.map_shift (bareIndex_cons_of_significant trivia rest)]

/-- A statement with its offsets changed. -/
def Statement.map (place : Nat → Nat) : Statement → Statement
  -- Only a declaration has offsets.
  | .declares variableOffset lastOffset => .declares (place variableOffset) (place lastOffset)
  | statement => statement

/-- A statement that starts with a modifier reads the same. -/
theorem readStatement_bare (tokens : List Token) :
    readStatement (bare tokens) = (readStatement tokens).map (bareIndex tokens) := by
  simp only [readStatement, variableReading_bare]
  cases named : variableReading tokens with
  | refused => rfl
  | truncated => rfl
  | found offset =>
    -- The variable is a bare token too, so the search for the semicolon goes on behind it in both
    -- lists.
    obtain ⟨⟨token, present, typed⟩, -⟩ := variableReading_spec named
    have significant := Structural.variableName.significant typed
    have place := bareIndex_succ_of_significant present significant
    simp only [Reading.map]
    rw [← place, ← bare_drop, semicolonReading_bare]
    cases semicolonReading (tokens.drop (offset + 1)) with
    | refused => rfl
    | truncated => rfl
    | found further => simp [Reading.map, Statement.map, bareIndex_add tokens (offset + 1), place]

end PhpOutline
