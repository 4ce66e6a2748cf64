import Mathlib
import PhpOutline.Cursor
import PhpOutline.Proofs.Method

/-!
When a mismatch that the methods report is one of the whole list of tokens.

A method is read again inside its own span, so a part that is closed behind the span looks unclosed.
Where the parameters open before the body, the span ends behind both parts and holds what closes
them.
-/

namespace PhpOutline

/-- The opener at an index opens the tokens from there on. -/
theorem openedBy?_drop {tokens : List Token} {index : Nat} {delimiter : Delimiter}
    (present : tokens[index]? = some (.symbol delimiter.opener)) :
    openedBy? (tokens.drop index) = some delimiter :=
  openedBy?_eq_some_iff.mpr ⟨_, drop_eq_cons_of_getElem? present⟩

/-- A walk that ends in front of a cut ends at the same place when the tokens are cut off. -/
theorem closerFrom_take {delimiter : Delimiter} {depth offset count : Nat} {tokens : List Token}
    (found : closerFrom delimiter depth tokens = some offset) (inside : offset < count) :
    closerFrom delimiter depth (tokens.take count) = some offset := by
  -- The induction follows the walk, which never looks past the token it ends on.
  fun_induction closerFrom delimiter depth tokens generalizing offset count with
  | case1 => simp at found
  | case2 depth token rest opens ih =>
    obtain ⟨later, walked, rfl⟩ := Option.map_eq_some_iff.mp found
    obtain ⟨count, rfl⟩ : ∃ left, count = left + 1 := ⟨count - 1, by omega⟩
    simp [closerFrom, opens, ih walked (by omega : later < count)]
  | case3 depth token rest opens closes last =>
    obtain ⟨count, rfl⟩ : ∃ left, count = left + 1 := ⟨count - 1, by omega⟩
    simpa [closerFrom, opens, closes, last] using found
  | case4 depth token rest opens closes nested ih =>
    obtain ⟨later, walked, rfl⟩ := Option.map_eq_some_iff.mp found
    obtain ⟨count, rfl⟩ : ∃ left, count = left + 1 := ⟨count - 1, by omega⟩
    simp [closerFrom, opens, closes, nested, ih walked (by omega : later < count)]
  | case5 depth token rest opens closes ih =>
    obtain ⟨later, walked, rfl⟩ := Option.map_eq_some_iff.mp found
    obtain ⟨count, rfl⟩ : ∃ left, count = left + 1 := ⟨count - 1, by omega⟩
    simp [closerFrom, opens, closes, ih walked (by omega : later < count)]

/-- A part that is closed in front of a cut is closed there when the tokens are cut off. -/
theorem closerAt?_take {tokens : List Token} {offset close count : Nat}
    (found : closerAt? tokens offset = some close) (inside : close < count) :
    closerAt? (tokens.take count) offset = some close := by
  simp only [closerAt?] at found ⊢
  rw [List.drop_take]
  split at found
  · simp at found
  · rename_i delimiter opened
    obtain ⟨walked, reached, rfl⟩ := Option.map_eq_some_iff.mp found
    -- The cut lies behind the closer, so the opener is still in front of it.
    obtain ⟨rest, ahead⟩ := openedBy?_eq_some_iff.mp opened
    have still : openedBy? ((tokens.drop offset).take (count - offset)) = some delimiter := by
      rw [show count - offset = count - offset - 1 + 1 by omega, ahead, List.take_succ_cons]
      exact openedBy?_eq_some_iff.mpr ⟨_, rfl⟩
    rw [still]
    exact Option.map_eq_some_iff.mpr ⟨walked, closerFrom_take reached (by omega), rfl⟩

/-- A declaration that does not run to the last token has parameters, and stops behind them. -/
theorem declarationEnd_closed {after : List Token} {stop : Nat}
    (ended : declarationEnd after = some stop) (early : stop + 1 < after.length) :
    ∃ parameters close body, after.findIdx? (Token.isSymbol '(') = some parameters ∧
      closerAt? after parameters = some close ∧
      findFrom (fun token => token.isSymbol '{' || token.isSymbol ';') after (close + 1) =
        some body ∧
      (after[body]? = some (.symbol ';') ∧ stop = body ∨
        after[body]? = some (.symbol '{') ∧ closerAt? after body = some stop) := by
  simp only [declarationEnd, Option.bind_eq_bind, Option.bind_eq_some_iff] at ended
  obtain ⟨parameters, opened, chosen⟩ := ended
  split at chosen
  · -- What is never closed or never ends runs to the last token.
    obtain rfl := Option.some.inj chosen
    omega
  · rename_i body reached
    obtain ⟨close, closed, located⟩ := Option.bind_eq_some_iff.mp reached
    refine ⟨parameters, close, body, opened, closed, located, ?_⟩
    obtain ⟨-, ⟨token, present, ends⟩, -⟩ := findFrom_spec located
    rw [present, Option.any_some] at chosen
    split at chosen
    · rename_i semicolon
      rw [Token.isSymbol_iff] at semicolon
      exact .inl ⟨by rw [present, semicolon], (Option.some.inj chosen).symm⟩
    · rename_i noSemicolon
      have brace : token = .symbol '{' := by
        simpa [noSemicolon, Token.isSymbol_iff] using ends
      refine .inr ⟨by rw [present, brace], ?_⟩
      cases body : closerAt? after body with
      | some last => simpa [body] using chosen
      | none =>
        simp only [body, Option.getD_none, Option.some.injEq] at chosen
        omega

/-- Tokens whose parts can be read, wherever they stand. -/
def Readable (parts : MethodParts) (tokens : List Token) : Prop :=
  -- The index only matters for the cause of a failure.
  ∀ index, ∃ found, readParts parts index tokens = .ok found

/-- Tokens that open no missing part are passed over. -/
theorem readable_drop {parts : MethodParts} {tokens : List Token} {start stop : Nat}
    (ordered : start ≤ stop)
    (plain : ∀ offset token, start ≤ offset → offset < stop → tokens[offset]? = some token →
      parts.opens? token = none)
    (later : Readable parts (tokens.drop stop)) : Readable parts (tokens.drop start) := by
  -- The induction goes back from the stop, one token that opens no part at a time.
  induction ordered with
  | refl => exact later
  | step ordered ih =>
    rename_i stop
    refine ih (fun offset token begun earlier present => plain offset token begun
      (by omega) present) ?_
    intro index
    cases ahead : tokens.drop stop with
    | nil => exact ⟨parts, by rw [readParts]⟩
    | cons token rest =>
      have present : tokens[stop]? = some token := by
        rw [← List.head?_drop, ahead, List.head?_cons]
      have rest_eq : rest = tokens.drop (stop + 1) := by
        rw [← List.drop_drop, ahead, List.drop_succ_cons, List.drop_zero]
      obtain ⟨found, read⟩ := later (index + 1)
      refine ⟨found, ?_⟩
      rw [readParts, plain stop token ordered (by omega) present, rest_eq]
      exact read

/-- Where no tokens are left, the parts are read. -/
theorem readable_nil (parts : MethodParts) : Readable parts [] :=
  fun _ => ⟨parts, by rw [readParts]⟩

/-- A missing part that is closed is read, and what follows it is read next. -/
theorem readable_part {parts : MethodParts} {tokens : List Token} {start close : Nat}
    {delimiter : Delimiter} (present : tokens[start]? = some (.symbol delimiter.opener))
    (missing : parts.opens? (.symbol delimiter.opener) = some delimiter)
    (closed : closerAt? tokens start = some close)
    (later : ∀ text, Readable (parts.add delimiter text) (tokens.drop (close + 1))) :
    Readable parts (tokens.drop start) := by
  -- The reader takes the part as a whole and goes on behind its closer, whatever its text.
  intro index
  have ahead := drop_eq_cons_of_getElem? present
  simp only [closerAt?, ahead, openedBy?_eq_some_iff.mpr ⟨_, rfl⟩] at closed
  obtain ⟨offset, walked, rfl⟩ := Option.map_eq_some_iff.mp closed
  obtain ⟨found, read⟩ := later
    (textOf ((Token.symbol delimiter.opener :: tokens.drop (start + 1)).take (offset + 1)))
    (index + offset + 1)
  refine ⟨found, ?_⟩
  rw [ahead, readParts, missing]
  simp only [walked, List.drop_drop]
  rwa [show start + 1 + offset = offset + start + 1 by omega]

/-- Whether a brace stands in front of the first parenthesis of some tokens. -/
def braceLeads (tokens : List Token) : Bool :=
  -- What is missing counts as standing behind the last token.
  tokens.findIdx (Token.isSymbol '{') < tokens.findIdx (Token.isSymbol '(')

/-- In front of the first parenthesis stands no brace, unless a brace leads. -/
theorem isSymbol_of_lt_parameters {after : List Token} {parameters offset : Nat} {token : Token}
    (opened : after.findIdx? (Token.isSymbol '(') = some parameters)
    (orderly : braceLeads after = false) (earlier : offset < parameters)
    (present : after[offset]? = some token) :
    token.isSymbol '(' = false ∧ token.isSymbol '{' = false := by
  -- No brace comes before the parameters, so the first of either is no earlier.
  obtain ⟨within, rfl⟩ := List.getElem?_eq_some_iff.mp present
  obtain ⟨-, rfl⟩ := List.findIdx?_eq_some_iff_findIdx_eq.mp opened
  simp only [braceLeads, decide_eq_false_iff_not, Nat.not_lt] at orderly
  exact ⟨List.not_of_lt_findIdx earlier, List.not_of_lt_findIdx (by omega)⟩

/--
The parts of a declaration that ends before its list can be read, wherever the reading starts.

No brace may lead, and the reading has to start in front of the parameters.
-/
theorem readable_declaration {after : List Token} {stop parameters start : Nat}
    (ended : declarationEnd after = some stop) (early : stop + 1 < after.length)
    (orderly : braceLeads after = false)
    (opened : after.findIdx? (Token.isSymbol '(') = some parameters) (before : start ≤ parameters) :
    Readable {} ((after.take (stop + 1)).drop start) := by
  obtain ⟨other, close, body, located, closed, reached, ending⟩ := declarationEnd_closed ended early
  obtain rfl : other = parameters := Option.some.inj (located.symm.trans opened)
  obtain ⟨behind, -, between⟩ := findFrom_spec reached
  obtain ⟨delimiter, opens, further, -⟩ := closerAt?_spec closed
  have reaches : body ≤ stop := by
    rcases ending with ⟨-, rfl⟩ | ⟨-, bodyClosed⟩
    · exact Nat.le_refl _
    · obtain ⟨-, -, later, -⟩ := closerAt?_spec bodyClosed
      exact Nat.le_of_lt later
  have whole : ∀ {offset : Nat} {token}, (after.take (stop + 1))[offset]? = some token →
      after[offset]? = some token := by
    intro offset token present
    rw [List.getElem?_take] at present
    split at present
    · exact present
    · simp at present
  have nothing : ∀ parts, Readable parts ((after.take (stop + 1)).drop (stop + 1)) := by
    intro parts
    rw [List.drop_eq_nil_of_le (List.length_take_le _ _)]
    exact readable_nil parts
  -- Up to the parameters no part opens, since neither a parenthesis nor a brace stands there.
  refine readable_drop before (fun offset token _ earlier present => ?_) ?_
  · obtain ⟨noParenthesis, noBrace⟩ :=
      isSymbol_of_lt_parameters opened orderly earlier (whole present)
    simp [MethodParts.opens?, noParenthesis, noBrace]
  obtain rfl : delimiter = .round := by
    rw [findIdx?_eq_findFrom] at opened
    obtain ⟨-, ⟨token, present, parenthesis⟩, -⟩ := findFrom_spec opened
    rw [opens, Option.some.injEq] at present
    cases delimiter <;> simp_all [← present, Token.isSymbol, Delimiter.opener]
  refine readable_part (by rwa [List.getElem?_take_of_lt (by omega)]) (by decide)
    (closerAt?_take closed (by omega)) fun text => ?_
  -- Behind them only the body is missing, and no brace stands in front of what ends the search.
  refine readable_drop behind (fun offset token later earlier present => ?_) ?_
  · have plain := between offset token later earlier (whole present)
    simp only [Bool.or_eq_false_iff] at plain
    simp [MethodParts.opens?, MethodParts.add, plain.1]
  rcases ending with ⟨semicolon, rfl⟩ | ⟨brace, bodyClosed⟩
  · refine readable_drop (Nat.le_succ _) (fun offset token _ _ present => ?_) (nothing _)
    obtain rfl : offset = stop := by omega
    rw [whole present, Option.some.injEq] at semicolon
    simp [MethodParts.opens?, MethodParts.add, semicolon, Token.isSymbol]
  · have kept : (after.take (stop + 1))[body]? = some (.symbol Delimiter.curly.opener) := by
      rwa [List.getElem?_take_of_lt (by omega)]
    exact readable_part kept
      (by simp [MethodParts.opens?, MethodParts.add, Token.isSymbol, Delimiter.opener])
      (closerAt?_take bodyClosed (by omega)) fun _ => nothing _

/-- A method that ends before its list can be described, unless a brace leads behind its keyword. -/
theorem Method.ofDeclaration_ne_error {tokens : List Token} {span : Span} {mark : Nat}
    {fault : Fault} (listed : span ∈ methodSpans tokens) (marked : span.mark? = some mark)
    (orderly : braceLeads (tokens.drop (mark + 1)) = false)
    (early : span.last + 1 < tokens.length) :
    Method.ofDeclaration span.first (span.tokens tokens) ≠ .error fault := by
  obtain ⟨lead, keyword, skipped, named, rest, shape, place, leading, keyed, skips, names⟩ :=
    methodSpans_shape listed
  obtain ⟨other, _, _, stop, marked', last, -, -, -, -, ended⟩ := methodSpans_declaration listed
  obtain rfl : mark = other := Option.some.inj (marked.symm.trans marked')
  obtain rfl : mark = span.first + lead.length := Option.some.inj (marked.symm.trans place)
  -- What follows the keyword in the span is what follows it in the list, cut off at the end.
  have cut : skipped ++ named :: rest =
      (tokens.drop (span.first + lead.length + 1)).take (stop + 1) := by
    calc skipped ++ named :: rest
        = (span.tokens tokens).drop (lead.length + 1) := by
          rw [shape, ← List.drop_drop, List.drop_left]
          rfl
      _ = (tokens.drop (span.first + lead.length + 1)).take (stop + 1) := by
          rw [Span.tokens, List.drop_drop, List.drop_take, last, ← Nat.add_assoc]
          congr 1
          omega
  obtain ⟨parameters, opened, reached, -, -⟩ := declarationEnd_spec ended
  have before : skipped.length < parameters := by
    -- The parenthesis neither precedes a name nor is one.
    have parenthesis : (skipped ++ named :: rest)[parameters]? = some (.symbol '(') := by
      rw [findIdx?_eq_findFrom] at opened
      obtain ⟨-, ⟨token, present, opens⟩, -⟩ := findFrom_spec opened
      rw [cut, List.getElem?_take_of_lt (by omega), present, Token.isSymbol_iff.mp opens]
    rcases Nat.lt_trichotomy parameters skipped.length with inside | same | behind
    · rw [List.getElem?_append_left inside] at parenthesis
      have precedes := skips _ (List.mem_of_getElem? parenthesis)
      simp [Token.precedesName, Token.isTrivia, Token.isSymbol] at precedes
    · obtain rfl : named = .symbol '(' := by simpa [same] using parenthesis
      simp [Token.namesFunction] at names
    · exact behind
  intro failed
  rw [shape, Method.ofDeclaration_eq_error_iff leading keyed skips names] at failed
  obtain ⟨parts, read⟩ := readable_declaration ended (by rw [List.length_drop]; omega)
    orderly opened before (lead.length + 1 + skipped.length + 1)
  rw [← cut, Nat.succ_eq_add_one, ← List.drop_drop, List.drop_left] at read
  simp [failed] at read

/-- A walk over the whole list from an opener fails exactly when the opener is never closed. -/
theorem walkToCloser_fault? {tokens : List Token} {index : Nat} {delimiter : Delimiter}
    (present : tokens[index]? = some (.symbol delimiter.opener))
    (short : tokens.length ≤ Cursor.limit) :
    ((Cursor.start tokens).seek index).walkToCloser.fault? =
      if (closerAt? tokens index).isSome then none else some (.unclosed index delimiter) := by
  have inside := (List.getElem?_eq_some_iff.mp present).1
  have opened := openedBy?_drop present
  -- The index is one that a cursor can hold, so the cursor stands on the opener.
  have here : ((Cursor.start tokens).seek index).index? = some index := by
    have reached : min index Cursor.limit = index := Nat.min_eq_left (by omega)
    simp [Cursor.seek, Cursor.start, Cursor.index?, reached, inside]
  rw [Cursor.walkToCloser, here]
  cases walked : closerOffset? delimiter (tokens.drop index) <;>
    simp [Cursor.seek, Cursor.start, closerAt?, opened, walked]

/--
A mismatch that the methods report is one of the whole list, but for methods led by a brace.

Where a brace stands behind the keyword of a method before any parenthesis, the span of the method
may end inside the part that is reported, and the part is closed behind the span.
-/
theorem methods_mismatch_genuine {tokens : List Token} {index : Nat} {delimiter : Delimiter}
    (failed : methods tokens = .error (.unclosed index delimiter)) :
    closerAt? tokens index = none ∧
        (tokens.length ≤ Cursor.limit →
          ((Cursor.start tokens).seek index).walkToCloser.fault? =
            some (.unclosed index delimiter)) ∨
      ∃ span ∈ methodSpans tokens, span.first ≤ index ∧ index ≤ span.last ∧
        (∃ mark, span.mark? = some mark ∧ braceLeads (tokens.drop (mark + 1)) = true) ∧
        ∃ close, closerAt? tokens index = some close ∧ span.last < close := by
  obtain ⟨span, listed, inner, raised, seen⟩ := exists_declaration_of_methods_eq_error failed
  obtain ⟨place, pair, shifted, -, present, begun, within, unclosed⟩ :=
    Method.ofDeclaration_eq_error listed raised
  obtain ⟨rfl, rfl⟩ := Fault.unclosed.inj (shifted.symm.trans seen)
  -- The tokens of the span from the opener on are those of the list, cut off behind the span.
  have cut : (span.tokens tokens).drop (place - span.first) =
      (tokens.take (span.last + 1)).drop place := by
    rw [Span.tokens, List.drop_drop, Nat.add_sub_cancel' begun]
  rw [cut] at unclosed
  cases closed : closerAt? tokens place with
  | none => exact .inl ⟨rfl, fun short => by simp [walkToCloser_fault? present short, closed]⟩
  | some close =>
    have beyond : span.last < close := by
      by_contra inside
      have kept := closerAt?_take closed (by omega : close < span.last + 1)
      have opened : openedBy? ((tokens.take (span.last + 1)).drop place) = some pair :=
        openedBy?_drop (by rwa [List.getElem?_take_of_lt (by omega)])
      simp [closerAt?, opened, unclosed] at kept
    obtain ⟨mark, marked, -⟩ := methodSpans_mark listed
    refine .inr ⟨span, listed, begun, within, ⟨mark, marked, ?_⟩, close, rfl, beyond⟩
    obtain ⟨_, _, _, closes⟩ := closerAt?_spec closed
    have early := (List.getElem?_eq_some_iff.mp closes).1
    by_contra orderly
    exact Method.ofDeclaration_ne_error listed marked (by simpa using orderly) (by omega) raised

/-- A body that breaks off behind its parameters is a mismatch of the whole list. -/
theorem methods_mismatch_genuine_truncated :
    let tokens : List Token :=
      [.typed .openTag "<?php " 1, .typed (.word .functionWord) "function" 1,
       .typed .whitespace " " 1, .typed .identifier "f" 1, .symbol '(',
       .typed .variableName "$n" 1, .symbol ')', .symbol '\x7b', .typed .identifier "g" 1,
       .symbol '\x7b', .symbol '\x7d']
    methods tokens = .error (.unclosed 7 .curly) ∧
      ((Cursor.start tokens).seek 7).walkToCloser.fault? = some (.unclosed 7 .curly) := by
  intro tokens
  have failed : methods tokens = .error (.unclosed 7 .curly) := by
    unfold tokens
    cbv
  -- The brace that is reported has no closer, so only the first case is left.
  have unclosed : closerAt? tokens 7 = none := by decide
  rcases methods_mismatch_genuine failed with ⟨-, walked⟩ | ⟨-, -, -, -, -, close, closed, -⟩
  · exact ⟨failed, walked (by decide)⟩
  · simp [unclosed] at closed

/--
A function that a group imports swallows the braces of a class, and one of them is reported.

The brace is closed in the list, where a walk from it succeeds.
-/
theorem methods_mismatch_of_closed_brace :
    let tokens : List Token :=
      [.typed .openTag "<?php " 1, .typed (.word .useWord) "use" 1, .typed .whitespace " " 1,
       .typed .identifier "Lib" 1, .typed .nameSeparator "\\" 1, .symbol '\x7b',
       .typed (.word .functionWord) "function" 1, .typed .whitespace " " 1,
       .typed .identifier "a" 1, .symbol ',', .typed .whitespace " " 1,
       .typed .identifier "Foo" 1, .symbol '\x7d', .symbol ';', .typed .whitespace " " 1,
       .typed (.word .classWord) "class" 1, .typed .whitespace " " 1, .typed .identifier "A" 1,
       .typed .whitespace " " 1, .symbol '\x7b', .typed .whitespace " " 1,
       .typed (.word .functionWord) "function" 1, .typed .whitespace " " 1,
       .typed .identifier "g" 1, .symbol '(', .symbol ')', .typed .whitespace " " 1,
       .symbol '\x7b', .symbol '\x7d', .typed .whitespace " " 1, .symbol '\x7d']
    methods tokens = .error (.unclosed 19 .curly) ∧ closerAt? tokens 19 = some 30 ∧
      ((Cursor.start tokens).seek 19).walkToCloser.fault? = none := by
  intro tokens
  -- The brace of the class is closed, yet the list of methods reports it as unclosed.
  have present : tokens[19]? = some (.symbol Delimiter.curly.opener) := by decide
  have closed : closerAt? tokens 19 = some 30 := by decide
  refine ⟨?_, closed, ?_⟩
  · unfold tokens
    cbv
  · rw [walkToCloser_fault? present (by decide), closed]
    rfl

end PhpOutline
