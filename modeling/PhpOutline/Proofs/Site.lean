import PhpOutline.Proofs.Nesting
import PhpOutline.Site

/-! What the searches around a site find: names, the end of a declaration and its leading run. -/

namespace PhpOutline

/-- A search finds the first token from its start on that passes the test. -/
theorem findFrom_spec {test : Token → Bool} {tokens : List Token} {offset index : Nat}
    (found : findFrom test tokens offset = some index) :
    offset ≤ index ∧ (∃ token, tokens[index]? = some token ∧ test token = true) ∧
      ∀ between token, offset ≤ between → between < index → tokens[between]? = some token →
        test token = false := by
  -- The search runs through the rest of the list, so its result is moved by the offset.
  obtain ⟨skipped, located, rfl⟩ := Option.map_eq_some_iff.mp found
  obtain ⟨within, passes, fails⟩ := List.findIdx?_eq_some_iff_getElem.mp located
  rw [List.getElem_drop] at passes
  refine ⟨by omega, ⟨_, ?_, passes⟩, ?_⟩
  · rw [Nat.add_comm, List.getElem?_eq_getElem]
  · intro between token start stop present
    have earlier := fails (between - offset) (by omega)
    obtain ⟨_, value⟩ := List.getElem?_eq_some_iff.mp present
    simpa [List.getElem_drop, Nat.add_sub_cancel' start, value] using earlier

/-- A search never leaves the list. -/
theorem findFrom_lt {test : Token → Bool} {tokens : List Token} {offset index : Nat}
    (found : findFrom test tokens offset = some index) : index < tokens.length := by
  obtain ⟨_, ⟨token, present, _⟩, _⟩ := findFrom_spec found
  exact (List.getElem?_eq_some_iff.mp present).1

/-- A test without an offset searches from the front. -/
theorem findIdx?_eq_findFrom (test : Token → Bool) (tokens : List Token) :
    tokens.findIdx? test = findFrom test tokens 0 := by
  simp [findFrom]

/-- The next significant token is the first that is no trivia. -/
theorem significantFrom_eq_findFrom (tokens : List Token) (offset : Nat) :
    significantFrom tokens offset = findFrom (fun token => !token.isTrivia) tokens offset :=
  rfl

/-- Between a declaring keyword and the acceptable name stand only trivia and ampersands. -/
theorem nameOffset_spec {accept : Token → Bool} {after : List Token} {offset : Nat}
    (found : nameOffset accept after = some offset) :
    (∃ token, after[offset]? = some token ∧ accept token = true) ∧
      ∀ index token, index < offset → after[index]? = some token →
        token.isTrivia = true ∨ token = .symbol '&' := by
  -- The name that is tested is the one that is returned.
  have tested : ∀ named, (if after[named]?.any accept then some named else none) = some offset →
      named = offset ∧ ∃ token, after[named]? = some token ∧ accept token = true := by
    intro named accepted
    split at accepted
    · rename_i acceptable
      exact ⟨Option.some.inj accepted, by simpa [Option.any_eq_true] using acceptable⟩
    · simp at accepted
  simp only [nameOffset, Option.bind_eq_bind] at found
  obtain ⟨first, significant, chosen⟩ := Option.bind_eq_some_iff.mp found
  rw [significantFrom_eq_findFrom] at significant
  obtain ⟨_, _, before⟩ := findFrom_spec significant
  split at chosen
  · -- The first significant token is the ampersand, and what follows it is trivia again.
    rename_i ampersand
    obtain ⟨named, located, accepted⟩ := Option.bind_eq_some_iff.mp chosen
    obtain ⟨rfl, acceptable⟩ := tested named accepted
    rw [significantFrom_eq_findFrom] at located
    obtain ⟨_, _, between⟩ := findFrom_spec located
    refine ⟨acceptable, ?_⟩
    intro index token earlier present
    rcases Nat.lt_trichotomy index first with left | same | right
    · exact .inl (by simpa using before index token (by omega) left present)
    · subst same
      right
      simpa [present, Token.isSymbol_iff] using ampersand
    · exact .inl (by simpa using between index token (by omega) earlier present)
  · obtain ⟨rfl, acceptable⟩ := tested first chosen
    refine ⟨acceptable, ?_⟩
    intro index token earlier present
    exact .inl (by simpa using before index token (by omega) earlier present)

/--
A declaration ends behind the parenthesis of its parameters.

Its last token is the semicolon or the closing brace, unless it breaks off with the list.
-/
theorem declarationEnd_spec {after : List Token} {stop : Nat}
    (found : declarationEnd after = some stop) :
    ∃ parameters, after.findIdx? (Token.isSymbol '(') = some parameters ∧ parameters ≤ stop ∧
      stop < after.length ∧
      (stop + 1 = after.length ∨ after[stop]? = some (.symbol ';') ∨
        after[stop]? = some (.symbol '}')) := by
  simp only [declarationEnd, Option.bind_eq_bind, Option.bind_eq_some_iff] at found
  obtain ⟨parameters, opened, ended⟩ := found
  have within : parameters < after.length := by
    rw [findIdx?_eq_findFrom] at opened
    exact findFrom_lt opened
  refine ⟨parameters, opened, ?_⟩
  split at ended
  · -- The parameters are never closed, or nothing ends the declaration after them.
    obtain rfl := Option.some.inj ended
    omega
  · rename_i halted reached
    obtain ⟨close, closed, located⟩ := Option.bind_eq_some_iff.mp reached
    obtain ⟨_, _, beyond, _⟩ := closerAt?_spec closed
    obtain ⟨further, ⟨token, present, ends⟩, _⟩ := findFrom_spec located
    have inside := findFrom_lt located
    split at ended
    · -- A semicolon ends a declaration without a body.
      rename_i semicolon
      obtain rfl := Option.some.inj ended
      simp only [present, Option.any_some, Token.isSymbol_iff] at semicolon
      subst semicolon
      exact ⟨by omega, inside, .inr (.inl present)⟩
    · -- Otherwise the body starts here, and its closing brace ends the declaration.
      rename_i noSemicolon
      simp only [present, Option.any_some, Bool.not_eq_true] at noSemicolon
      have brace : token = .symbol '{' := by
        simpa [noSemicolon, Token.isSymbol_iff] using ends
      cases body : closerAt? after halted with
      | none =>
        simp only [body, Option.getD_none, Option.some.injEq] at ended
        omega
      | some last =>
        simp only [body, Option.getD_some, Option.some.injEq] at ended
        subst ended
        obtain ⟨delimiter, opens, later, closes⟩ := closerAt?_spec body
        rw [present, brace, Option.some.injEq, Token.symbol.injEq] at opens
        have curly : delimiter = .curly := by
          cases delimiter <;> simp_all [Delimiter.opener]
        subst curly
        exact ⟨by omega, (List.getElem?_eq_some_iff.mp closes).1, .inr (.inr closes)⟩

/-- Whether a token may stand in the run of comments and modifiers before a declaration. -/
def Token.leads (isModifier : Token → Bool) (token : Token) : Bool :=
  -- White space counts inside the run.
  token.isTrivia || isModifier token

/-- The leading part of a declaration is a piece of the run behind it. -/
theorem leadingLength_le (isModifier : Token → Bool) (behind : List Token) :
    leadingLength isModifier behind ≤ (behind.takeWhile (Token.leads isModifier)).length := by
  -- Of the run of leading tokens at most the white space at its far end is dropped.
  have shorter := (List.dropWhile_sublist (l := (behind.takeWhile (Token.leads isModifier)).reverse)
    (Token.isKind .whitespace)).length_le
  rwa [List.length_reverse] at shorter

/-- Every token of the leading part is a comment, white space or a modifier. -/
theorem leads_of_lt_leadingLength {isModifier : Token → Bool} {behind : List Token} {index : Nat}
    {token : Token} (inside : index < leadingLength isModifier behind)
    (present : behind[index]? = some token) : token.leads isModifier = true := by
  -- The place lies in the run of leading tokens, and all of these pass the test.
  have within := Nat.lt_of_lt_of_le inside (leadingLength_le isModifier behind)
  have listed : (behind.takeWhile (Token.leads isModifier))[index]? = some token := by
    obtain ⟨rest, split⟩ := List.takeWhile_prefix (l := behind) (Token.leads isModifier)
    rw [← split, List.getElem?_append_left within] at present
    exact present
  exact List.all_eq_true.mp List.all_takeWhile token (List.mem_of_getElem? listed)

end PhpOutline
