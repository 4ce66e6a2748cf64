import PhpOutline.Proofs.Cursor
import PhpOutline.Proofs.Import.Reported
import PhpOutline.Proofs.Trivia.Spans

/-!
Which bodies of classes are listed, and how they lie to one another.

Every named declaration with a brace behind it has the body of that brace listed.
The leap from a keyword to its brace only passes over keywords that share the brace.
Two bodies are apart or one lies in the other, also when one or both are never closed.
-/

namespace PhpOutline

/-- A search for a symbol finds the first place from its start on where the symbol stands. -/
theorem findFrom_isSymbol_iff {char : Char} {tokens : List Token} {start index : Nat} :
    findFrom (Token.isSymbol char) tokens start = some index ↔
      IsLeast {place | start ≤ place ∧ tokens[place]? = some (.symbol char)} index := by
  rw [findFrom_eq_some_iff]
  constructor
  · -- No token between start and index passes, so every other brace lies further.
    rintro ⟨begun, ⟨token, present, passes⟩, fails⟩
    rw [Token.isSymbol_iff.mp passes] at present
    refine ⟨⟨begun, present⟩, fun place other => ?_⟩
    by_contra earlier
    have refused := fails place _ other.1 (Nat.lt_of_not_le earlier) other.2
    simp [Token.isSymbol] at refused
  · -- A token that passed in between would be an earlier brace than the least.
    rintro ⟨⟨begun, present⟩, least⟩
    refine ⟨begun, ⟨_, present, by simp [Token.isSymbol]⟩, ?_⟩
    intro between token after before standing
    by_contra passes
    rw [Token.isSymbol_iff.mp (Bool.eq_true_of_not_eq_false passes)] at standing
    exact absurd (least ⟨after, standing⟩) (Nat.not_le.mpr before)

/-- The recognizer of braces looks for one behind a declaring keyword, and passes over all else. -/
theorem recognizeClassBrace_at {tokens : List Token} {index : Nat}
    (inside : index < tokens.length) :
    recognizeClassBrace (Site.at tokens index) =
      if declaresClass (Site.at tokens index) then
        match findFrom (Token.isSymbol '{') tokens (index + 1) with
        | some brace =>
          .report { first := brace, last := brace, mark? := some index } (brace - index)
        | none => .halt
      else .pass 0 := by
  have ahead : (Site.at tokens index).ahead = tokens[index] :: tokens.drop (index + 1) :=
    List.drop_eq_getElem_cons inside
  rw [recognizeClassBrace, ahead, Site.index_at (Nat.le_of_lt inside)]
  -- The search behind the keyword counts from there, and the other one from the front.
  cases found : (tokens.drop (index + 1)).findIdx? (Token.isSymbol '{') with
  | none => simp [findFrom, found]
  | some offset =>
    have places : index + 1 + offset = offset + (index + 1) := by omega
    have lengths : 1 + offset = offset + (index + 1) - index := by omega
    simp [findFrom, found, places, lengths]

/-- A declaring keyword is no symbol. -/
theorem declaresClass_ne_symbol {tokens : List Token} {keyword : Nat}
    (declares : declaresClass (Site.at tokens keyword) = true) (char : Char) :
    keyword < tokens.length ∧ tokens[keyword]? ≠ some (.symbol char) := by
  -- The keyword is a typed token, which a bare character is not.
  unfold declaresClass at declares
  split at declares
  · simp at declares
  · rename_i token after ahead
    obtain ⟨inside, present, -⟩ := Site.ahead_at_eq_cons ahead
    refine ⟨inside, ?_⟩
    rw [present]
    rintro bare
    obtain rfl := Option.some.inj bare
    simp [Token.kind?] at declares

/-- The braces that are found are the first ones behind the declaring keywords. -/
theorem exists_classBrace_iff {tokens : List Token} {brace : Nat} :
    (∃ span ∈ classBraceSpans tokens, span.first = brace) ↔
      ∃ keyword, declaresClass (Site.at tokens keyword) = true ∧
        findFrom (Token.isSymbol '{') tokens (keyword + 1) = some brace := by
  constructor
  · rintro ⟨span, listed, rfl⟩
    obtain ⟨keyword, last, inside, reported⟩ := mem_sweep listed
    rw [recognizeClassBrace_at inside] at reported
    split at reported
    · rename_i declares
      split at reported
      · rename_i brace found
        obtain ⟨rfl, -⟩ := Verdict.report.inj reported
        exact ⟨keyword, declares, found⟩
      · simp at reported
    · simp at reported
  · rintro ⟨keyword, declares, found⟩
    obtain ⟨inside, apart⟩ := declaresClass_ne_symbol declares '{'
    -- A report of the brace is listed wherever the sweep stands at the keyword that gives it.
    have listed : ∀ place, SweepReaches recognizeClassBrace tokens 0 place →
        place < tokens.length → declaresClass (Site.at tokens place) = true →
        findFrom (Token.isSymbol '{') tokens (place + 1) = some brace →
        ∃ span ∈ classBraceSpans tokens, span.first = brace := by
      intro place reached within declares found
      refine ⟨⟨brace, brace, some place⟩, ?_, rfl⟩
      refine mem_sweep_iff.mpr ⟨place, brace - place, reached, within, ?_⟩
      rw [recognizeClassBrace_at within, if_pos declares, found]
    rcases sweepReaches_or_passed (Nat.zero_le keyword) inside with
      reached | ⟨place, reached, before, covers⟩
    · exact listed keyword reached inside declares found
    · -- An earlier keyword passed over this one on the way to its brace, which is the same one.
      have within : place < tokens.length := Nat.lt_trans before inside
      have decided := recognizeClassBrace_at within
      obtain ⟨⟨after, stands⟩, least⟩ := findFrom_isSymbol_iff.mp found
      split at decided
      · rename_i earlier
        split at decided
        · rename_i shared opened
          have reach := covers _ (by rw [decided]; rfl)
          obtain ⟨⟨beyond, standing⟩, first⟩ := findFrom_isSymbol_iff.mp opened
          have distinct : shared ≠ keyword := by
            rintro rfl
            exact apart standing
          obtain rfl : shared = brace := Nat.le_antisymm
            (first ⟨by omega, stands⟩) (least ⟨by omega, standing⟩)
          exact listed place reached within earlier opened
        · rename_i missing
          have opens : Token.isSymbol '{' (.symbol '{') = true := rfl
          have beyond : place + 1 ≤ brace := by omega
          obtain ⟨other, -, opened⟩ := exists_findFrom_le beyond stands opens
          simp [missing] at opened
      · have reach := covers 0 (by rw [decided]; rfl)
        omega

section

variable {tokens : List Token}

/-- The listed bodies open at the first braces behind the declaring keywords. -/
theorem exists_classBody_iff {opening : Nat} :
    (∃ body ∈ classBodies tokens, body.opening = opening) ↔
      ∃ keyword, declaresClass (Site.at tokens keyword) = true ∧
        IsLeast {place | keyword < place ∧ tokens[place]? = some (.symbol '{')} opening := by
  -- A body opens where a class brace stands, and the search for the brace takes the first.
  have braces : (∃ body ∈ classBodies tokens, body.opening = opening) ↔
      ∃ span ∈ classBraceSpans tokens, span.first = opening := by
    simp only [classBodies, List.mem_map, exists_exists_and_eq_and]
  rw [braces, exists_classBrace_iff]
  simp only [findFrom_isSymbol_iff, Nat.succ_le_iff]

/-- A listed body opens with a brace, and its end is where the brace is closed. -/
theorem classBodies_braces {body : Body} (listed : body ∈ classBodies tokens) :
    tokens[body.opening]? = some (.symbol '{') ∧
      body.closing = (closerAt? tokens body.opening).getD (tokens.length - 1) := by
  obtain ⟨span, found, rfl⟩ := List.mem_map.mp listed
  exact ⟨classBraceSpans_brace found, rfl⟩

/-- A body ends on the brace that matches its first one, or with the list when there is none. -/
theorem classBodies_closing {body : Body} (listed : body ∈ classBodies tokens) :
    IsLeast {stop | IsLevel .curly tokens body.opening stop} body.closing ∧
        tokens[body.closing]? = some (.symbol '}') ∨
      (∀ stop, ¬IsLevel .curly tokens body.opening stop) ∧ body.closing + 1 = tokens.length := by
  -- The walk from the brace says both where the body closes and that nothing closes it.
  obtain ⟨brace, ended⟩ := classBodies_braces listed
  have inside := (List.getElem?_eq_some_iff.mp brace).1
  have opened : tokens[body.opening]? = some (.symbol Delimiter.curly.opener) := brace
  obtain ⟨closed, unclosed⟩ := closerOffset?_level opened
  simp only [closerAt?, openedBy?_drop opened] at ended
  cases walked : closerOffset? .curly (tokens.drop body.opening) with
  -- Without a closer the body runs to the last token.
  | none =>
    rw [walked] at ended
    have last : body.closing = tokens.length - 1 := ended
    exact .inr ⟨unclosed walked, by omega⟩
  -- The walk counts from the brace, the body from the start of the list.
  | some offset =>
    rw [walked] at ended
    have place : body.closing = body.opening + offset := by
      rw [ended]
      exact Nat.add_comm offset body.opening
    have closes := getElem?_of_closerFrom walked
    rw [List.getElem?_drop] at closes
    rw [place]
    exact .inl ⟨closed offset walked, closes⟩

/-- A body that opens behind another one lies behind its end or does not reach beyond it. -/
theorem classBodies_nested {outer inner : Body} (listed : outer ∈ classBodies tokens)
    (known : inner ∈ classBodies tokens) (after : outer.opening < inner.opening) :
    outer.closing < inner.opening ∨ inner.closing ≤ outer.closing := by
  obtain ⟨opens, ended⟩ := classBodies_braces listed
  obtain ⟨opensToo, endedToo⟩ := classBodies_braces known
  have within := (classBodies_inRange known).2
  have curly : Token.symbol '{' = .symbol Delimiter.curly.opener := rfl
  rw [curly] at opens opensToo
  cases closed : closerAt? tokens outer.opening with
  | none =>
    -- A body that is never closed reaches to the last token.
    rw [closed, Option.getD_none] at ended
    omega
  | some close =>
    rw [closed, Option.getD_some] at ended
    obtain ⟨delimiter, -, -, closes⟩ := closerAt?_spec closed
    have apart : inner.opening ≠ close := by
      rintro rfl
      rw [opensToo] at closes
      cases delimiter <;> simp [Delimiter.opener, Delimiter.closer] at closes
    by_cases before : inner.opening < close
    · -- What opens inside a closed part is closed inside it.
      obtain ⟨stop, earlier, found⟩ := closerAt?_nested opens closed opensToo after before
      rw [found, Option.getD_some] at endedToo
      omega
    · omega

/-- The first brace behind the name of a class is the first one behind its keyword. -/
theorem exists_keyword_of_className {filter : ClassFilter} {span : Span}
    (listed : span ∈ classNameSpans filter tokens) :
    ∃ keyword, declaresClass (Site.at tokens keyword) = true ∧
      ∀ place, tokens[place]? = some (.symbol '{') → (keyword < place ↔ span.last < place) := by
  obtain ⟨keyword, last, inside, reported⟩ := mem_sweep listed
  obtain ⟨token, after, offset, ahead, -, declares, named, rfl, -⟩ :=
    recognizeClassName_report reported
  obtain ⟨-, -, rest⟩ := Site.ahead_at_eq_cons ahead
  obtain ⟨⟨name, present, names⟩, between⟩ := nameOffset_spec named
  rw [Site.index_at (Nat.le_of_lt inside)]
  refine ⟨keyword, declares, fun place brace => ⟨fun later => ?_, fun later => ?_⟩⟩
  · -- Up to the name there stand only trivia, ampersands and the name itself.
    by_contra early
    have standing : after[place - (keyword + 1)]? = some (.symbol '{') := by
      rw [rest, List.getElem?_drop, Nat.add_sub_cancel' (by omega), brace]
    simp only [Nat.not_lt] at early
    by_cases same : place - (keyword + 1) = offset
    · rw [same, present] at standing
      obtain rfl := Option.some.inj standing
      simp [Token.namesClass, Token.isWord, Token.isKind] at names
    · rcases between _ _ (by omega) standing with trivia | ampersand
      · simp [Token.isTrivia] at trivia
      · simp at ampersand
  · simp only at later
    omega

end

/--
The bodies of classes are complete and properly nested.

They open, each behind the one before it, exactly at the first braces behind declaring keywords, so
that every reported name with a brace behind it has its body listed.
Each ends on its matching brace, or with the list when there is none, and of two bodies that are not
apart one holds the other.
-/
theorem class_bodies_complete_and_nested (tokens : List Token) :
    ((classBodies tokens).Pairwise fun earlier later => earlier.opening < later.opening) ∧
    (∀ opening, (∃ body ∈ classBodies tokens, body.opening = opening) ↔
      ∃ keyword, declaresClass (Site.at tokens keyword) = true ∧
        IsLeast {place | keyword < place ∧ tokens[place]? = some (.symbol '{')} opening) ∧
    (∀ filter, ∀ span ∈ classNameSpans filter tokens,
      (∃ place, span.last < place ∧ tokens[place]? = some (.symbol '{')) →
      ∃ body ∈ classBodies tokens,
        IsLeast {place | span.last < place ∧ tokens[place]? = some (.symbol '{')} body.opening) ∧
    (∀ body ∈ classBodies tokens, body.opening ≤ body.closing ∧ body.closing < tokens.length ∧
      (IsLeast {stop | IsLevel .curly tokens body.opening stop} body.closing ∧
          tokens[body.closing]? = some (.symbol '}') ∨
        (∀ stop, ¬IsLevel .curly tokens body.opening stop) ∧
          body.closing + 1 = tokens.length)) ∧
    ∀ body ∈ classBodies tokens, ∀ other ∈ classBodies tokens,
      (body.closing < other.opening ∨ other.closing < body.opening) ∨
        (body.opening ≤ other.opening ∧ other.closing ≤ body.closing) ∨
        (other.opening ≤ body.opening ∧ body.closing ≤ other.closing) := by
  refine ⟨classBodies_ordered tokens, fun _ => exists_classBody_iff, ?_, ?_, ?_⟩
  · rintro filter span listed ⟨place, behind, brace⟩
    obtain ⟨keyword, declares, same⟩ := exists_keyword_of_className listed
    have places : {place | keyword < place ∧ tokens[place]? = some (.symbol '{')} =
        {place | span.last < place ∧ tokens[place]? = some (.symbol '{')} := by
      ext place
      exact and_congr_left (same place)
    have opens : Token.isSymbol '{' (.symbol '{') = true := rfl
    obtain ⟨opening, -, found⟩ := exists_findFrom_le (Nat.succ_le_of_lt behind) brace opens
    have least := findFrom_isSymbol_iff.mp found
    simp only [Nat.succ_le_iff] at least
    obtain ⟨body, known, rfl⟩ := exists_classBody_iff.mpr ⟨keyword, declares, places ▸ least⟩
    exact ⟨body, known, least⟩
  · intro body listed
    obtain ⟨ordered, within⟩ := classBodies_inRange listed
    exact ⟨ordered, within, classBodies_closing listed⟩
  · intro body listed other known
    rcases Nat.lt_trichotomy body.opening other.opening with before | same | behind
    · have nested := classBodies_nested listed known before
      omega
    · -- Bodies that open at one brace end at one place.
      have ends := (classBodies_braces listed).2
      rw [same, ← (classBodies_braces known).2] at ends
      omega
    · have nested := classBodies_nested known listed behind
      omega

end PhpOutline
