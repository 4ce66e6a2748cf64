import PhpOutline.Proofs.ImportMark
import PhpOutline.Proofs.Mismatch

/-!
How far the searches around a declaration read.

A search that ends in the front part of a list finds the same whatever stands behind that part.
The same holds of a walk to a closer, of the end of a declaration and of the name it declares.
-/

namespace PhpOutline

/-- A search finds an index exactly when the token there is the first one to pass the test. -/
theorem findFrom_eq_some_iff {test : Token → Bool} {tokens : List Token} {offset index : Nat} :
    findFrom test tokens offset = some index ↔
      offset ≤ index ∧ (∃ token, tokens[index]? = some token ∧ test token = true) ∧
        ∀ between token, offset ≤ between → between < index → tokens[between]? = some token →
          test token = false := by
  constructor
  · exact findFrom_spec
  · -- The result is counted from the start of the list, and the search from the offset.
    rintro ⟨start, ⟨token, present, passes⟩, fails⟩
    obtain ⟨within, rfl⟩ := List.getElem?_eq_some_iff.mp present
    refine Option.map_eq_some_iff.mpr ⟨index - offset, ?_, by omega⟩
    refine List.findIdx?_eq_some_iff_getElem.mpr ⟨by rw [List.length_drop]; omega, ?_, ?_⟩
    · simpa [List.getElem_drop, Nat.add_sub_cancel' start] using passes
    · intro skipped earlier
      have refused := fails (offset + skipped) _ (by omega) (by omega)
        (List.getElem?_eq_getElem (by omega))
      simpa [List.getElem_drop] using refused

/-- A token that passes the test bounds the search for the first one. -/
theorem exists_findFrom_le {test : Token → Bool} {tokens : List Token} {offset index : Nat}
    {token : Token} (start : offset ≤ index) (present : tokens[index]? = some token)
    (passes : test token = true) : ∃ first ≤ index, findFrom test tokens offset = some first := by
  have ahead : (tokens.drop offset)[index - offset]? = some token := by
    rwa [List.getElem?_drop, Nat.add_sub_cancel' start]
  obtain ⟨within, value⟩ := List.getElem?_eq_some_iff.mp ahead
  cases located : (tokens.drop offset).findIdx? test with
  -- A search without a result would have refused the token that passes.
  | none =>
    have refused := List.findIdx?_eq_none_iff.mp located token (List.mem_of_getElem? ahead)
    simp [passes] at refused
  | some first =>
    refine ⟨first + offset, ?_, by rw [findFrom, located]; rfl⟩
    -- Were the result further on, the token that passes would have been refused before it.
    obtain ⟨_, _, earlier⟩ := List.findIdx?_eq_some_iff_getElem.mp located
    by_contra beyond
    have refused := earlier (index - offset) (by omega)
    simp [value, passes] at refused

/-- Searching behind some tokens is searching the whole list from there on. -/
theorem findFrom_drop (test : Token → Bool) (tokens : List Token) (count offset : Nat) :
    findFrom test tokens (count + offset) =
      (findFrom test (tokens.drop count) offset).map (count + ·) := by
  -- Both search the same rest of the list, and only count from different places.
  simp only [findFrom, List.drop_drop, Option.map_map]
  congr 1
  funext index
  show index + (count + offset) = count + (index + offset)
  omega

/-- Walking to a closer behind some tokens is walking in the whole list. -/
theorem closerAt?_drop (tokens : List Token) (count offset : Nat) :
    closerAt? tokens (count + offset) = (closerAt? (tokens.drop count) offset).map (count + ·) := by
  -- Both walk through the same rest of the list, and only count from different places.
  simp only [closerAt?, List.drop_drop]
  split
  · rfl
  · rw [Option.map_map]
    congr 1
    funext index
    show index + (count + offset) = count + (index + offset)
    omega

/-- A walk that ends is not changed by tokens that follow. -/
theorem closerFrom_append {delimiter : Delimiter} {depth offset : Nat} {tokens : List Token}
    (found : closerFrom delimiter depth tokens = some offset) (more : List Token) :
    closerFrom delimiter depth (tokens ++ more) = some offset := by
  -- The walk ends in the front part, so each of its steps is the same with more behind.
  fun_induction closerFrom delimiter depth tokens generalizing offset with
  | case1 => simp at found
  | case2 depth token rest opens ih =>
    obtain ⟨later, walked, rfl⟩ := Option.map_eq_some_iff.mp found
    simp [closerFrom, opens, ih walked]
  | case3 depth token rest opens closes last => simpa [closerFrom, opens, closes, last] using found
  | case4 depth token rest opens closes nested ih =>
    obtain ⟨later, walked, rfl⟩ := Option.map_eq_some_iff.mp found
    simp [closerFrom, opens, closes, nested, ih walked]
  | case5 depth token rest opens closes ih =>
    obtain ⟨later, walked, rfl⟩ := Option.map_eq_some_iff.mp found
    simp [closerFrom, opens, closes, ih walked]

/-- A part that is closed stays closed at the same place when tokens follow. -/
theorem closerAt?_append {tokens : List Token} {offset close : Nat}
    (found : closerAt? tokens offset = some close) (more : List Token) :
    closerAt? (tokens ++ more) offset = some close := by
  obtain ⟨opening, present, later, closes⟩ := closerAt?_spec found
  have inside := (List.getElem?_eq_some_iff.mp present).1
  have opened := openedBy?_drop present
  -- The opener stands in the front part, and so it opens the same delimiter.
  have still : openedBy? (tokens.drop offset ++ more) = some opening := by
    rw [← List.drop_append_of_le_length (Nat.le_of_lt inside)]
    exact openedBy?_drop (by rwa [List.getElem?_append_left inside])
  simp only [closerAt?, opened] at found
  obtain ⟨walked, reached, rfl⟩ := Option.map_eq_some_iff.mp found
  simp only [closerAt?, List.drop_append_of_le_length (Nat.le_of_lt inside), still]
  exact Option.map_eq_some_iff.mpr ⟨walked, closerFrom_append reached more, rfl⟩

section

variable {front back other : List Token}

/-- A search that ends in the front part does not read what stands behind it. -/
theorem findFrom_within {test : Token → Bool} {offset index : Nat}
    (found : findFrom test (front ++ back) offset = some index) (inside : index < front.length) :
    findFrom test (front ++ other) offset = some index := by
  -- All that is asked of the tokens up to the result concerns the front part alone.
  obtain ⟨start, ⟨token, present, passes⟩, fails⟩ := findFrom_spec found
  rw [List.getElem?_append_left inside] at present
  refine findFrom_eq_some_iff.mpr ⟨start, ⟨token, ?_, passes⟩, ?_⟩
  · rwa [List.getElem?_append_left inside]
  · intro between token begun earlier standing
    rw [List.getElem?_append_left (by omega)] at standing
    exact fails between token begun earlier (by rwa [List.getElem?_append_left (by omega)])

/-- A part that is closed in the front part is closed there whatever stands behind it. -/
theorem closerAt?_within {offset close : Nat}
    (found : closerAt? (front ++ back) offset = some close) (inside : close < front.length) :
    closerAt? (front ++ other) offset = some close := by
  -- The walk needs no more than the front part, and more behind does not change it.
  have kept := closerAt?_take found inside
  rw [List.take_left] at kept
  exact closerAt?_append kept other

/-- Where a declaration with closed parameters ends. -/
theorem declarationEnd_eq {after : List Token} {parameters close body : Nat}
    (opened : after.findIdx? (Token.isSymbol '(') = some parameters)
    (closed : closerAt? after parameters = some close)
    (reached : findFrom (fun token => token.isSymbol '{' || token.isSymbol ';') after (close + 1) =
      some body) :
    declarationEnd after =
      if after[body]?.any (Token.isSymbol ';') then some body
      else some ((closerAt? after body).getD (after.length - 1)) := by
  simp [declarationEnd, opened, closed, reached]

/-- A declaration that ends in the front part ends there whatever stands behind it. -/
theorem declarationEnd_within {stop : Nat} (ended : declarationEnd (front ++ back) = some stop)
    (inside : stop < front.length) (early : stop + 1 < (front ++ back).length) :
    declarationEnd (front ++ other) = some stop := by
  obtain ⟨parameters, close, body, opened, closed, reached, ending⟩ :=
    declarationEnd_closed ended early
  -- The parameters, their closer and the start of the body all come before the end.
  have reaches : body ≤ stop := by
    rcases ending with ⟨-, rfl⟩ | ⟨-, bodyClosed⟩
    · exact Nat.le_refl _
    · obtain ⟨-, -, later, -⟩ := closerAt?_spec bodyClosed
      exact Nat.le_of_lt later
  obtain ⟨behind, -, -⟩ := findFrom_spec reached
  obtain ⟨-, -, further, -⟩ := closerAt?_spec closed
  rw [findIdx?_eq_findFrom] at opened
  have kept : (front ++ other).findIdx? (Token.isSymbol '(') = some parameters := by
    rw [findIdx?_eq_findFrom]
    exact findFrom_within opened (by omega)
  rw [declarationEnd_eq kept (closerAt?_within closed (by omega))
    (findFrom_within reached (by omega)), List.getElem?_append_left (by omega)]
  rcases ending with ⟨semicolon, rfl⟩ | ⟨brace, bodyClosed⟩
  · rw [List.getElem?_append_left (by omega)] at semicolon
    simp [semicolon, Token.isSymbol]
  · rw [List.getElem?_append_left (by omega)] at brace
    simp [brace, Token.isSymbol, closerAt?_within bodyClosed inside]

/-- The search for a name does not read beyond a token that is neither trivia nor an ampersand. -/
theorem nameOffset_within {accept : Token → Bool} {index : Nat} {token : Token}
    (present : front[index]? = some token) (significant : token.isTrivia = false)
    (plain : token.isSymbol '&' = false) :
    nameOffset accept (front ++ other) = nameOffset accept (front ++ back) := by
  have inside := (List.getElem?_eq_some_iff.mp present).1
  -- Both searches for a significant token end at that token or before it.
  have located : ∀ offset ≤ index, ∃ first ≤ index, ∀ rest : List Token,
      significantFrom (front ++ rest) offset = some first := by
    intro offset start
    have standing : (front ++ back)[index]? = some token := by
      rwa [List.getElem?_append_left inside]
    obtain ⟨first, bounded, found⟩ : ∃ first ≤ index,
        findFrom (fun token => !token.isTrivia) (front ++ back) offset = some first :=
      exists_findFrom_le start standing (by simp [significant])
    refine ⟨first, bounded, fun rest => ?_⟩
    rw [significantFrom_eq_findFrom]
    exact findFrom_within found (by omega)
  have read : ∀ offset ≤ index, ∀ rest : List Token, (front ++ rest)[offset]? = front[offset]? :=
    fun offset bounded rest => List.getElem?_append_left (by omega)
  obtain ⟨first, bounded, found⟩ := located 0 (Nat.zero_le index)
  simp only [nameOffset, found, Option.bind_eq_bind, Option.bind_some, read first bounded]
  by_cases ampersand : front[first]?.any (Token.isSymbol '&') = true
  · -- The token that bounds the search is no ampersand, so it comes behind this one.
    have apart : first ≠ index := by
      rintro rfl
      simp [present, plain] at ampersand
    obtain ⟨second, within, again⟩ := located (first + 1) (by omega)
    simp only [ampersand, if_true, again, Option.bind_some, read second within]
  · simp only [ampersand, Bool.false_eq_true, if_false]

end

/-- Where a declaration with a body ends, seen from the whole list. -/
theorem declarationEnd_drop {tokens : List Token} {start parameters close brace last : Nat}
    (opened : findFrom (Token.isSymbol '(') tokens start = some parameters)
    (closed : closerAt? tokens parameters = some close)
    (reached : findFrom (fun token => token.isSymbol '{' || token.isSymbol ';') tokens (close + 1) =
      some brace)
    (present : tokens[brace]? = some (.symbol '{')) (ended : closerAt? tokens brace = some last) :
    declarationEnd (tokens.drop start) = some (last - start) := by
  -- All places are moved to the list behind the start, where the end is looked for.
  rw [← Nat.add_zero start, findFrom_drop, ← findIdx?_eq_findFrom] at opened
  obtain ⟨_, openedHere, rfl⟩ := Option.map_eq_some_iff.mp opened
  rw [closerAt?_drop] at closed
  obtain ⟨_, closedHere, rfl⟩ := Option.map_eq_some_iff.mp closed
  rw [Nat.add_assoc, findFrom_drop] at reached
  obtain ⟨_, reachedHere, rfl⟩ := Option.map_eq_some_iff.mp reached
  rw [closerAt?_drop] at ended
  obtain ⟨_, endedHere, rfl⟩ := Option.map_eq_some_iff.mp ended
  rw [← List.getElem?_drop] at present
  rw [declarationEnd_eq openedHere closedHere reachedHere, present, endedHere]
  simp [Token.isSymbol]

/-- A token that leads nothing ends the run behind a declaration. -/
theorem leadingLength_barrier {isModifier : Token → Bool} {token : Token}
    (blocks : token.leads isModifier = false) (run deep : List Token) :
    leadingLength isModifier (run ++ token :: deep) = leadingLength isModifier run := by
  -- The token that leads nothing ends the run, so what lies deeper is never looked at.
  have ends : (token :: deep).takeWhile (fun token => token.isTrivia || isModifier token) = [] :=
    List.takeWhile_cons_of_neg (by simpa [Token.leads] using blocks)
  have short : (run ++ token :: deep).takeWhile (fun token => token.isTrivia || isModifier token) =
      run.takeWhile fun token => token.isTrivia || isModifier token := by
    rw [List.takeWhile_append, ends, List.append_nil]
    split
    · rename_i whole
      exact ((List.takeWhile_prefix _).eq_of_length whole).symm
    · rfl
  rw [leadingLength, leadingLength, short]

/-- The nearest significant token is not looked for behind another one. -/
theorem followsUse_barrier {token : Token} (significant : token.isTrivia = false)
    (run deep : List Token) : followsUse (run ++ token :: deep) = followsUse (run ++ [token]) := by
  simp [followsUse, significantBehind, List.find?_append, significant]

/--
In front of a token that ends the search for a name, methods are recognized alike.

What is reported has to end in front of that token, and a parenthesis has to follow in the front.
-/
theorem recognizeMethod_within {front back other : List Token} {index bound : Nat} {token : Token}
    (before : index < bound) (present : front[bound]? = some token)
    (significant : token.isTrivia = false) (plain : token.isSymbol '&' = false)
    (parenthesis : .symbol '(' ∈ front.drop (index + 1))
    (short : ∀ span last, recognizeMethod (Site.at (front ++ back) index) = .report span last →
      index + last < bound) :
    recognizeMethod (Site.at (front ++ other) index) =
      recognizeMethod (Site.at (front ++ back) index) := by
  have inside := (List.getElem?_eq_some_iff.mp present).1
  have within : index < front.length := by omega
  have ahead : ∀ rest : List Token, (front ++ rest).drop index =
      front[index] :: (front.drop (index + 1) ++ rest) := by
    intro rest
    rw [List.drop_append_of_le_length (by omega), List.drop_eq_getElem_cons within,
      List.cons_append]
  have behind : ∀ rest : List Token, (front ++ rest).take index = front.take index :=
    fun rest => List.take_append_of_le_length (by omega)
  have standing : (front.drop (index + 1))[bound - (index + 1)]? = some token := by
    rwa [List.getElem?_drop, show index + 1 + (bound - (index + 1)) = bound by omega]
  have name : functionNameOffset (front.drop (index + 1) ++ other) =
      functionNameOffset (front.drop (index + 1) ++ back) :=
    nameOffset_within standing significant plain
  simp only [recognizeMethod, Site.at, Site.index, ahead, behind, name] at short ⊢
  split
  · rename_i declares
    obtain ⟨stop, ended⟩ :=
      exists_declarationEnd (List.mem_append_left back parenthesis)
    -- The declaration ends in front of the bound, so its end is found there again.
    simp only [declares, ended, if_true, Verdict.report.injEq, and_imp] at short
    have early := short _ _ rfl rfl
    have kept : declarationEnd (front.drop (index + 1) ++ other) = some stop := by
      refine declarationEnd_within ended ?_ ?_
      · rw [List.length_drop]
        omega
      · rw [List.length_append, List.length_drop]
        omega
    rw [ended, kept]
  · rfl

end PhpOutline
