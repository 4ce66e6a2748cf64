import Mathlib
import PhpOutline.Proofs.Property.Statement
import PhpOutline.Proofs.Sweep

/-!
How the sweep for properties leaps over functions.

Nothing inside a function is reported, and a property outside of all functions is.
A word for functions counts as one even where it heads nothing, and then what it is followed by is
leapt over up to the end of the next function.
-/

namespace PhpOutline

/-- Whether the word at an index is one for functions that no import marks. -/
def isFunctionAt (tokens : List Token) (index : Nat) : Bool :=
  -- What follows the word is not looked at.
  tokens[index]?.any (Token.isWord .functionWord) && !followsUse (tokens.take index).reverse

/-- The index of the last token of the declaration that the word at an index would head. -/
def functionLast? (tokens : List Token) (index : Nat) : Option Nat :=
  -- Without a parenthesis further on there is no declaration.
  (declarationEnd (tokens.drop (index + 1))).map (index + 1 + ·)

/-- What is left behind the first significant token, if that one passes a test. -/
def skipOne (test : Token → Bool) (tokens : List Token) : List Token :=
  -- Trivia in front of it is dropped in any case.
  match tokens.dropWhile Token.isTrivia with
  | [] => []
  | token :: rest => if test token then rest else token :: rest

/-- Whether the word at an index heads a function or a closure. -/
def headsFunction (tokens : List Token) (index : Nat) : Bool :=
  -- An ampersand and a name may stand between the word and the parameters.
  isFunctionAt tokens index
    && ((skipOne Token.namesFunction (skipOne (Token.isSymbol '&') (tokens.drop (index + 1)))).find?
      (fun token => !token.isTrivia)).any (Token.isSymbol '(')

/-- The span of the property whose modifier stands at an index. -/
def propertySpanAt (tokens : List Token) (index variableOffset lastOffset : Nat) : Span :=
  -- Comments in front of the modifier belong to the property.
  { first := index - leadingLength (fun _ => false) (tokens.take index).reverse
    last := index + lastOffset
    mark? := some (index + variableOffset) }

section

variable {tokens : List Token} {index : Nat}

/-- What the sweep for properties decides at an index of a list. -/
theorem recognizeProperty_at (inside : index < tokens.length) :
    recognizeProperty (Site.at tokens index) =
      if isFunctionAt tokens index then .pass ((functionLast? tokens index).getD index - index)
      else if startsProperty tokens index then
        match readStatement (tokens.drop index) with
        | .declares variableOffset lastOffset =>
          .report (propertySpanAt tokens index variableOffset lastOffset) lastOffset
        | .other => .pass 0
        | .truncated => .halt
      else .pass 0 := by
  have ahead : tokens.drop index = tokens[index] :: tokens.drop (index + 1) :=
    List.drop_eq_getElem_cons inside
  rw [recognizeProperty, Site.index_at (Nat.le_of_lt inside)]
  simp only [Site.at, ahead, isFunctionAt, startsProperty, functionLast?,
    List.getElem?_eq_getElem inside, Option.any_some]
  -- A function is leapt over up to its end, or passed alone if it has none.
  split
  · cases declarationEnd (tokens.drop (index + 1)) with
    | none => simp
    | some stop =>
      simp only [Option.map_some, Option.getD_some, Verdict.pass.injEq]
      omega
  · rfl

/-- At a function the sweep leaps behind its last token. -/
theorem recognizeProperty_function {last : Nat} (isFunction : isFunctionAt tokens index = true)
    (ended : functionLast? tokens index = some last) :
    recognizeProperty (Site.at tokens index) = .pass (last - index) := by
  -- The function has an end, and the leap goes there.
  have inside : index < tokens.length := by
    simp only [isFunctionAt, Bool.and_eq_true, Option.any_eq_true] at isFunction
    obtain ⟨⟨keyword, present, -⟩, -⟩ := isFunction
    exact (List.getElem?_eq_some_iff.mp present).1
  rw [recognizeProperty_at inside, if_pos isFunction, ended, Option.getD_some]

/-- A function does not end before its word, nor behind the list, and it ends on no trivia. -/
theorem functionLast?_spec {last : Nat} (ended : functionLast? tokens index = some last) :
    index < last ∧ last < tokens.length ∧
      (last + 1 = tokens.length ∨ tokens[last]? = some (.symbol ';') ∨
        tokens[last]? = some (.symbol '}')) := by
  -- The end is one of the rest of the list, counted from the start.
  obtain ⟨stop, found, rfl⟩ := Option.map_eq_some_iff.mp ended
  obtain ⟨-, -, -, within, closing⟩ := declarationEnd_spec found
  rw [List.getElem?_drop, List.length_drop] at closing
  rw [List.length_drop] at within
  exact ⟨by omega, by omega, closing.imp_left fun whole => by omega⟩

/-- A modifier at the start of a statement is a token of the list, and no word for functions. -/
theorem startsProperty_spec (starts : startsProperty tokens index = true) :
    index < tokens.length ∧ isFunctionAt tokens index = false ∧
      ∃ token, tokens[index]? = some token ∧ token.isPropertyModifier = true := by
  simp only [startsProperty, Bool.and_eq_true, Option.any_eq_true] at starts
  obtain ⟨⟨token, present, modifies⟩, -⟩ := starts
  refine ⟨(List.getElem?_eq_some_iff.mp present).1, ?_, token, present, modifies⟩
  cases keyed : token.isWord .functionWord with
  | false => simp [isFunctionAt, present, keyed]
  | true =>
    -- The keyword of a function is no modifier of a property.
    obtain ⟨text, line, rfl⟩ := Token.isWord_iff.mp keyed
    simp [Token.isPropertyModifier, Token.isWord, Token.isKind] at modifies

/-- The properties are the declaring statements at which the sweep comes to stand. -/
theorem mem_propertySpans_iff {span : Span} :
    span ∈ propertySpans tokens ↔
      ∃ place variableOffset lastOffset, SweepReaches recognizeProperty tokens 0 place ∧
        startsProperty tokens place = true ∧
        readStatement (tokens.drop place) = .declares variableOffset lastOffset ∧
        span = propertySpanAt tokens place variableOffset lastOffset := by
  rw [propertySpans, mem_sweep_iff]
  constructor
  · rintro ⟨place, last, reached, inside, reported⟩
    rw [recognizeProperty_at inside] at reported
    split at reported
    · simp at reported
    · split at reported
      · -- Only a statement that declares a variable is reported.
        rename_i starts
        split at reported
        · rename_i variableOffset lastOffset read
          obtain ⟨rfl, rfl⟩ := Verdict.report.inj reported
          exact ⟨place, variableOffset, lastOffset, reached, starts, read, rfl⟩
        · simp at reported
        · simp at reported
      · simp at reported
  · rintro ⟨place, variableOffset, lastOffset, reached, starts, read, rfl⟩
    obtain ⟨inside, noFunction, -⟩ := startsProperty_spec starts
    refine ⟨place, lastOffset, reached, inside, ?_⟩
    simp [recognizeProperty_at inside, noFunction, starts, read]

/-- How the sweep for properties never comes to stand at an index, from an earlier place. -/
inductive PassesOver (tokens : List Token) (index place : Nat) : Prop where
  /-- The statement that starts there breaks off with the list, which ends the sweep. -/
  | breaksOff (starts : startsProperty tokens place = true)
      (read : readStatement (tokens.drop place) = .truncated)
  /-- A function that starts there is leapt over. -/
  | function (last : Nat) (isFunction : isFunctionAt tokens place = true)
      (ended : functionLast? tokens place = some last) (covers : index ≤ last)
  /-- A property that starts there is reported as a whole. -/
  | property (variableOffset lastOffset : Nat) (starts : startsProperty tokens place = true)
      (read : readStatement (tokens.drop place) = .declares variableOffset lastOffset)
      (covers : index ≤ place + lastOffset)

/-- A place that does not lead the sweep to a later index passes over it. -/
theorem passesOver_of_last? {place : Nat} (inside : place < tokens.length) (before : place < index)
    (covers : ∀ last, (recognizeProperty (Site.at tokens place)).last? = some last →
      index ≤ place + last) :
    PassesOver tokens index place := by
  -- Each verdict that reaches so far is of one of three sorts, for a pass alone does not.
  rw [recognizeProperty_at inside] at covers
  split at covers
  · rename_i isFunction
    have reach := covers _ rfl
    cases ended : functionLast? tokens place with
    | none =>
      rw [ended, Option.getD_none] at reach
      omega
    | some last =>
      rw [ended, Option.getD_some] at reach
      exact .function last isFunction ended (by omega)
  · split at covers
    · rename_i starts
      split at covers
      · rename_i variableOffset lastOffset read
        exact .property variableOffset lastOffset starts read (covers _ rfl)
      · have reach := covers _ rfl
        omega
      · rename_i read
        exact .breaksOff starts read
    · have reach := covers _ rfl
      omega

/-- The sweep for properties comes to stand at an index, or passes over it from an earlier place. -/
theorem property_reached_or_passed (inside : index < tokens.length) :
    SweepReaches recognizeProperty tokens 0 index ∨
      ∃ place, SweepReaches recognizeProperty tokens 0 place ∧ place < index ∧
        PassesOver tokens index place := by
  -- Some verdict of the sweep covers the index, or the sweep comes to stand there.
  rcases sweepReaches_or_passed (Nat.zero_le index) inside with
    reached | ⟨place, reached, before, covers⟩
  · exact .inl reached
  · exact .inr ⟨place, reached, before, passesOver_of_last? (by omega) before covers⟩

/-- Behind a function at which the sweep stands it comes to stand behind its last token only. -/
theorem lt_of_reached_function {keyword last : Nat}
    (reached : SweepReaches recognizeProperty tokens 0 keyword)
    (isFunction : isFunctionAt tokens keyword = true)
    (ended : functionLast? tokens keyword = some last)
    (later : SweepReaches recognizeProperty tokens 0 index) (before : keyword < index) :
    last < index := by
  -- From the function the sweep goes on behind its end, and the index was reached later.
  obtain ⟨passed, leap, beyond⟩ := reached.exists_last later before
  rw [recognizeProperty_function isFunction ended] at leap
  obtain rfl := Option.some.inj leap
  obtain ⟨further, -, -⟩ := functionLast?_spec ended
  omega

/--
No property is reported from inside an outermost function, with the comments in front of it.

The function must neither lie in a property nor in another function that starts before it.
-/
theorem properties_outside_functions {keyword last : Nat}
    (isFunction : isFunctionAt tokens keyword = true)
    (ended : functionLast? tokens keyword = some last)
    (apart : ∀ span ∈ propertySpans tokens, ¬(span.first ≤ keyword ∧ keyword ≤ span.last))
    (outermost : ∀ earlier < keyword, isFunctionAt tokens earlier = true →
      ∀ reach ∈ functionLast? tokens earlier, reach < keyword) :
    ∀ span ∈ propertySpans tokens, (span.last < keyword ∨ last < span.first) ∧
      ∀ mark, span.mark? = some mark → mark < keyword ∨ last < mark := by
  intro span listed
  suffices outside : span.last < keyword ∨ last < span.first by
    refine ⟨outside, fun mark marked => ?_⟩
    obtain ⟨own, ownMark, start, stop, -⟩ := propertySpans_mark listed
    obtain rfl := Option.some.inj (marked.symm.trans ownMark)
    omega
  obtain ⟨place, variableOffset, lastOffset, reached, starts, read, rfl⟩ :=
    mem_propertySpans_iff.mp listed
  obtain ⟨inside, noFunction, -⟩ := startsProperty_spec starts
  obtain ⟨further, -, ending⟩ := functionLast?_spec ended
  rcases Nat.lt_trichotomy place keyword with before | same | behind
  · -- A property that starts before the function would hold it, if it did not end before it.
    left
    have outside := apart _ listed
    simp only [propertySpanAt] at outside ⊢
    omega
  · subst same
    simp [isFunction] at noFunction
  · right
    -- The sweep comes to stand at the function, since nothing passes over it.
    have stands : SweepReaches recognizeProperty tokens 0 keyword := by
      rcases property_reached_or_passed (by omega : keyword < tokens.length) with
        stands | ⟨earlier, there, before, passes⟩
      · exact stands
      · cases passes with
        | breaksOff begins broken =>
          obtain ⟨within, other, -⟩ := startsProperty_spec begins
          obtain ⟨_, goesOn, -⟩ := there.exists_last reached (by omega)
          simp [recognizeProperty_at within, other, begins, broken, Verdict.last?] at goesOn
        | function reach outer closes covers =>
          have short := outermost earlier before outer reach closes
          omega
        | property variableOffset lastOffset begins declared covers =>
          refine absurd ?_ (apart _ (mem_propertySpans_iff.mpr
            ⟨earlier, variableOffset, lastOffset, there, begins, declared, rfl⟩))
          simp only [propertySpanAt]
          omega
    have beyond := lt_of_reached_function stands isFunction ended reached behind
    -- What the function ends on is no trivia, so the comments of the property stop behind it.
    by_contra overlap
    rcases ending with whole | semicolon | brace
    · omega
    · have leads := leads_of_leadingLength (Nat.le_of_lt inside) (Nat.le_of_not_lt overlap) beyond
        semicolon
      simp [Token.leads, Token.isTrivia] at leads
    · have leads := leads_of_leadingLength (Nat.le_of_lt inside) (Nat.le_of_not_lt overlap) beyond
        brace
      simp [Token.leads, Token.isTrivia] at leads

/-- A promoted parameter and the variables of a closure inside a constructor are no properties. -/
theorem properties_outside_functions_constructor :
    let tokens : List Token :=
      [.symbol '\x7b', .typed (.word .privateWord) "private" 1, .typed .variableName "$a" 1,
       .symbol ';', .typed (.word .functionWord) "function" 2, .typed .identifier "__construct" 2,
       .symbol '(', .typed (.word .privateWord) "private" 2, .typed .variableName "$b" 2,
       .symbol ')', .symbol '\x7b', .typed (.word .staticWord) "static" 3,
       .typed .variableName "$c" 3, .symbol '=', .typed (.word .functionWord) "function" 3,
       .symbol '(', .symbol ')', .symbol '\x7b', .typed (.word .staticWord) "static" 3,
       .typed .variableName "$d" 3, .symbol ';', .symbol '\x7d', .symbol ';', .symbol '\x7d',
       .typed .docComment "/** e */" 4, .typed (.word .publicWord) "public" 4,
       .typed .variableName "$e" 4, .symbol ';', .symbol '\x7d']
    propertySpans tokens = [⟨1, 3, some 2⟩, ⟨24, 27, some 26⟩] ∧
      ∀ span ∈ propertySpans tokens, (span.last < 4 ∨ 23 < span.first) ∧
        ∀ mark, span.mark? = some mark → mark < 4 ∨ 23 < mark := by
  intro tokens
  have found : propertySpans tokens = [⟨1, 3, some 2⟩, ⟨24, 27, some 26⟩] := by
    unfold tokens
    cbv
  -- The two spans are found on either side of the function.
  refine ⟨found, properties_outside_functions (by decide) (by decide) ?_ (by decide)⟩
  rw [found]
  decide

/-- A token that may stand before a variable neither ends a statement nor closes a bracket. -/
theorem Token.endsStatement_of_precedesVariable {token : Token}
    (precedes : token.precedesVariable = true) :
    token.endsStatement = false ∧ token.isSymbol ']' = false := by
  cases token with
  | symbol char =>
    simp only [Token.precedesVariable, Token.isTrivia, Token.isPropertyModifier, Token.isWord,
      Token.isKind, Token.isSymbol, Bool.false_or, Bool.or_false, Bool.or_eq_true,
      beq_iff_eq] at precedes
    -- Five symbols may precede a variable, and none of them ends a statement.
    rcases precedes with (((rfl | rfl) | rfl) | rfl) | rfl <;> decide
  | typed kind text line =>
    refine ⟨?_, rfl⟩
    -- Of the kinds that end a statement none may precede a variable.
    cases kind with
    | openTag => simp [Token.precedesVariable, Token.isPropertyModifier, Token.isTrivia,
        Token.isWord, Token.isKind, Token.isSymbol, Kind.isComment] at precedes
    | closeTag => simp [Token.precedesVariable, Token.isPropertyModifier, Token.isTrivia,
        Token.isWord, Token.isKind, Token.isSymbol, Kind.isComment] at precedes
    | _ => rfl

/-- No statement starts behind a modifier before the variable comes. -/
theorem startsStatement_of_precedesVariable {run : List Token} (deep : List Token)
    (plain : ∀ token ∈ run, token.precedesVariable = true)
    (significant : ∃ token ∈ run, token.isTrivia = false) :
    startsStatement (run ++ deep) = false := by
  induction run with
  | nil => simp at significant
  | cons token run ih =>
    -- Going back, trivia is passed over, and the first other token ends no statement.
    obtain ⟨noEnd, noBracket⟩ := Token.endsStatement_of_precedesVariable (plain token (by simp))
    rw [startsStatement, List.cons_append, startsStatementFrom]
    cases blank : token.isTrivia with
    | true =>
      obtain ⟨other, listed, kept⟩ := significant
      have further : other ∈ run := by
        rcases List.mem_cons.mp listed with rfl | further
        · simp [blank] at kept
        · exact further
      exact ih (fun later member => plain later (by simp [member])) ⟨other, further, kept⟩
    | false => simp [noBracket, noEnd]

/-- Between the modifier of a property and its variable no other property starts. -/
theorem startsProperty_within {place variableOffset lastOffset : Nat}
    (starts : startsProperty tokens place = true)
    (read : readStatement (tokens.drop place) = .declares variableOffset lastOffset)
    (behind : place < index) (before : index ≤ place + variableOffset) :
    startsProperty tokens index = false := by
  obtain ⟨-, -, modifier, present, modifies⟩ := startsProperty_spec starts
  obtain ⟨named, -⟩ := readStatement_eq_declares read
  obtain ⟨⟨variableName, standing, isVariable⟩, between⟩ := variableReading_spec named
  simp only [List.getElem?_drop] at standing between
  by_contra begins
  obtain ⟨inside, -, token, there, again⟩ := startsProperty_spec (by simpa using begins)
  rcases Nat.eq_or_lt_of_le before with same | earlier
  · -- The variable is no modifier.
    rw [same, standing, Option.some.injEq] at there
    subst there
    obtain ⟨text, line, rfl⟩ := Token.isKind_iff.mp isVariable
    simp [Token.isPropertyModifier, Token.isWord, Token.isKind] at again
  · -- Behind the modifier stand only tokens that may come before the variable.
    have split : tokens.take index = tokens.take place ++ tokens.extract place index := by
      rw [List.extract_eq_take_drop, ← List.take_add, Nat.add_sub_cancel' (Nat.le_of_lt behind)]
    have refused : startsStatement (tokens.take index).reverse = false := by
      rw [split, List.reverse_append]
      apply startsStatement_of_precedesVariable
      · intro token member
        obtain ⟨position, begun, short, found⟩ :=
          exists_index_of_mem_extract (List.mem_reverse.mp member)
        exact between (position - place) token (by omega) (by rwa [Nat.add_sub_cancel' begun])
      · refine ⟨modifier, List.mem_reverse.mpr ?_, ?_⟩
        · rw [List.extract_eq_take_drop, drop_eq_cons_of_getElem? present,
            show index - place = index - place - 1 + 1 by omega, List.take_succ_cons]
          exact List.mem_cons_self
        · cases modifier with
          | symbol char => rfl
          | typed kind text line =>
            cases kind <;> simp_all [Token.isPropertyModifier, Token.isWord, Token.isKind,
              Token.isTrivia, Kind.isComment]
    simp [startsProperty, refused] at begins

/-- A declaring statement is reported exactly when the sweep comes to stand at its modifier. -/
theorem exists_property_iff_reached {variableOffset lastOffset : Nat}
    (starts : startsProperty tokens index = true)
    (declared : readStatement (tokens.drop index) = .declares variableOffset lastOffset) :
    (∃ span ∈ propertySpans tokens, span.mark? = some (index + variableOffset) ∧
        span.last = index + lastOffset) ↔ SweepReaches recognizeProperty tokens 0 index := by
  constructor
  · rintro ⟨span, listed, marked, -⟩
    obtain ⟨place, otherVariable, otherLast, reached, begins, read, rfl⟩ :=
      mem_propertySpans_iff.mp listed
    have same : place + otherVariable = index + variableOffset := Option.some.inj marked
    -- Two properties with one variable start at the same modifier.
    rcases Nat.lt_trichotomy place index with before | rfl | behind
    · simp [startsProperty_within begins read before (by omega)] at starts
    · exact reached
    · simp [startsProperty_within starts declared behind (by omega)] at begins
  · intro reached
    exact ⟨_, mem_propertySpans_iff.mpr ⟨index, _, _, reached, starts, declared, rfl⟩, rfl, rfl⟩

/--
A property outside of functions is reported, but for words for functions that head nothing.

Every statement before it must be complete, and it must lie neither in a property nor in a function
or closure.
It is lost exactly when the sweep comes to stand at a word for functions that heads none, and the
next function ends behind the property.
-/
theorem property_reported_iff {variableOffset lastOffset : Nat}
    (starts : startsProperty tokens index = true)
    (declared : readStatement (tokens.drop index) = .declares variableOffset lastOffset)
    (complete : ∀ earlier < index, startsProperty tokens earlier = true →
      readStatement (tokens.drop earlier) ≠ .truncated)
    (outside : ∀ span ∈ propertySpans tokens, ∀ mark ∈ span.mark?, mark < index → span.last < index)
    (free : ∀ keyword ≤ index, headsFunction tokens keyword = true →
      ∀ last ∈ functionLast? tokens keyword, last < index) :
    (∃ span ∈ propertySpans tokens, span.mark? = some (index + variableOffset) ∧
        span.last = index + lastOffset) ↔
      ∀ keyword < index, SweepReaches recognizeProperty tokens 0 keyword →
        isFunctionAt tokens keyword = true → headsFunction tokens keyword = false →
          ∀ last ∈ functionLast? tokens keyword, last < index := by
  rw [exists_property_iff_reached starts declared]
  constructor
  · intro reached keyword before stands isFunction _ last ended
    exact lt_of_reached_function stands isFunction ended reached before
  · intro short
    obtain ⟨inside, -, -⟩ := startsProperty_spec starts
    -- If the statement was not reached, something before it leads over it, and each sort is ruled
    -- out.
    rcases property_reached_or_passed inside with reached | ⟨place, stands, before, passes⟩
    · exact reached
    · exfalso
      cases passes with
      | breaksOff begins broken => exact complete place before begins broken
      | function last isFunction ended covers =>
        have bounded : last < index := by
          cases heads : headsFunction tokens place with
          | true => exact free place (Nat.le_of_lt before) heads last ended
          | false => exact short place before stands isFunction heads last ended
        omega
      | property otherVariable otherLast begins read covers =>
        have listed := mem_propertySpans_iff.mpr ⟨place, _, _, stands, begins, read, rfl⟩
        rcases Nat.lt_or_ge (place + otherVariable) index with earlier | within
        · have bounded := outside _ listed _ rfl earlier
          simp only [propertySpanAt] at bounded
          omega
        · simp [startsProperty_within begins read before within] at starts

/-- A word inside a function that ends before the property takes nothing from it. -/
theorem property_reported_iff_behind_function :
    let tokens : List Token :=
      [.typed (.word .functionWord) "function" 1, .typed .identifier "f" 1, .symbol '(',
       .symbol ')', .symbol '\x7b', .typed .identifier "B" 1, .typed .doubleColon "::" 1,
       .typed (.word .functionWord) "FUNCTION" 1, .symbol ';', .symbol '\x7d',
       .typed .docComment "/** x */" 2, .typed (.word .privateWord) "private" 2,
       .typed .variableName "$x" 2, .symbol ';', .typed (.word .functionWord) "function" 3,
       .typed .identifier "g" 3, .symbol '(', .symbol ')', .symbol '\x7b', .symbol '\x7d']
    functionLast? tokens 7 = some 19 ∧
      ∃ span ∈ propertySpans tokens, span.mark? = some 12 ∧ span.last = 13 := by
  intro tokens
  have declared : readStatement (tokens.drop 11) = .declares 1 2 := by
    unfold tokens
    cbv
  have found : propertySpans tokens = [⟨10, 13, some 12⟩] := by
    unfold tokens
    cbv
  have first : ∀ earlier < 11, startsProperty tokens earlier = false := by decide
  have words : ∀ keyword < 11, isFunctionAt tokens keyword = true → keyword = 0 ∨ keyword = 7 := by
    decide
  refine ⟨by decide, (property_reported_iff (by decide) declared ?_ ?_ (by decide)).mpr ?_⟩
  · intro earlier before begins
    simp [first earlier before] at begins
  · rw [found]
    decide
  · intro keyword before stands isFunction unheaded last ended
    rcases words keyword before isFunction with rfl | rfl
    · exact absurd unheaded (by decide)
    · -- The sweep leaps over the first function and the word in it.
      have passed : 9 < 7 :=
        lt_of_reached_function (.here 0) (by decide) (by decide) stands (by decide)
      omega

/--
A constant named by the word for functions hides the property behind it, up to the next function.

No statement before the property breaks off, and no function or closure starts before it.
-/
theorem property_lost_behind_constant :
    let tokens : List Token :=
      [.typed .openTag "<?php " 1, .typed (.word .classWord) "class" 1, .typed .whitespace " " 1,
       .typed .identifier "A" 1, .typed .whitespace " " 1, .symbol '\x7b',
       .typed .whitespace " " 1, .typed (.word .constWord) "const" 1, .typed .whitespace " " 1,
       .typed (.word .functionWord) "FUNCTION" 1, .typed .whitespace " " 1, .symbol '=',
       .typed .whitespace " " 1, .typed .integer "1" 1, .symbol ';', .typed .whitespace " " 1,
       .typed (.word .privateWord) "private" 1, .typed .whitespace " " 1,
       .typed .variableName "$x" 1, .symbol ';', .typed .whitespace " " 1,
       .typed (.word .functionWord) "function" 1, .typed .whitespace " " 1,
       .typed .identifier "g" 1, .symbol '(', .symbol ')', .typed .whitespace " " 1,
       .symbol '\x7b', .symbol '\x7d', .typed .whitespace " " 1, .symbol '\x7d']
    startsProperty tokens 16 = true ∧ readStatement (tokens.drop 16) = .declares 2 3 ∧
      (∀ earlier < 16, startsProperty tokens earlier = false) ∧
      (∀ keyword ≤ 16, headsFunction tokens keyword = false) ∧ propertySpans tokens = [] := by
  intro tokens
  -- No function is headed before the property, yet the constant's name sends the sweep past it.
  refine ⟨by decide, ?_, by decide, by decide, ?_⟩
  · unfold tokens
    cbv
  · unfold tokens
    cbv

end

end PhpOutline
