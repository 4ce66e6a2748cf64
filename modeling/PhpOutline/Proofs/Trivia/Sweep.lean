import PhpOutline.Proofs.Trivia.Search

/-!
Sweeps report the same spans whether or not trivia stands between the tokens.

A recognizer that lets trivia pass, and decides alike at every other token and at its place among
the bare tokens, gives spans that differ in their indices alone.
-/

namespace PhpOutline

/-- The same span among the bare tokens. -/
def Span.bare (tokens : List Token) (span : Span) : Span :=
  -- Trivia at either end falls away.
  { first := bareIndex tokens span.first
    last := bareLast tokens span.last
    mark? := span.mark?.map (bareIndex tokens) }

/-- The same verdict at the place of an index among the bare tokens. -/
def Verdict.bare (tokens : List Token) (index : Nat) : Verdict → Verdict
  -- What is passed over counts from the index on.
  | .pass last => .pass (bareLast (tokens.drop index) last)
  | .report span last => .report (span.bare tokens) (bareLast (tokens.drop index) last)
  | .halt => .halt

/-- The same site between the bare tokens. -/
def Site.bare (site : Site) : Site :=
  -- Trivia falls away on both sides.
  ⟨PhpOutline.bare site.behind, PhpOutline.bare site.ahead⟩

/-- The site at the place of an index is the bare site at that index. -/
theorem Site.at_bareIndex (tokens : List Token) (index : Nat) :
    Site.at (PhpOutline.bare tokens) (bareIndex tokens index) = (Site.at tokens index).bare := by
  simp [Site.at, Site.bare, bare_take, bare_drop]

/-- The index of a bare site is the place of the index. -/
theorem Site.index_bare (tokens : List Token) (index : Nat) :
    (Site.at tokens index).bare.index = bareIndex tokens index := by
  simp [Site.at, Site.bare, Site.index, bareIndex]

/-- Past a range that starts on a significant token the place is one behind its last token. -/
theorem bareIndex_behind {tokens : List Token} {index : Nat} {token : Token}
    (present : tokens[index]? = some token) (significant : token.isTrivia = false) (last : Nat) :
    bareIndex tokens (index + (last + 1)) =
      bareIndex tokens index + (bareLast (tokens.drop index) last + 1) := by
  -- The token at the index is bare, so at least one bare token comes before the place behind it.
  have counted : 1 ≤ bareIndex (tokens.drop index) (last + 1) := by
    rw [drop_eq_cons_of_getElem? present, bareIndex_cons_of_significant significant]
    exact Nat.le_add_left 1 _
  rw [bareIndex_add, bareLast, Nat.sub_add_cancel counted]

/-- Two recognizers that decide alike on a list and on its bare tokens. -/
structure BareAlike (recognize other : Site → Verdict) (tokens : List Token) : Prop where
  /-- Trivia is passed over on its own. -/
  trivia : ∀ index token, tokens[index]? = some token → token.isTrivia = true →
    recognize (Site.at tokens index) = .pass 0
  /-- At any other token the verdicts agree. -/
  significant : ∀ index token, tokens[index]? = some token → token.isTrivia = false →
    other (Site.at tokens index).bare = (recognize (Site.at tokens index)).bare tokens index

/-- Recognizers that decide alike report the same spans from an index on. -/
theorem sweepAt_bare {recognize other : Site → Verdict} {tokens : List Token}
    (alike : BareAlike recognize other tokens) (index : Nat) :
    sweepAt other (bare tokens) (bareIndex tokens index) =
      (sweepAt recognize tokens index).map (Span.bare tokens) := by
  -- The sweep over the list may take more steps, but only over trivia.
  induction remaining : tokens.length - index using Nat.strongRecOn generalizing index with
  | ind _ ih =>
    rcases Nat.lt_or_ge index tokens.length with inside | ended
    · have present : tokens[index]? = some tokens[index] := List.getElem?_eq_getElem inside
      have onward : ∀ last, sweepAt other (bare tokens) (bareIndex tokens (index + (last + 1))) =
          (sweepAt recognize tokens (index + (last + 1))).map (Span.bare tokens) :=
        fun last => ih _ (by omega) (index + (last + 1)) rfl
      rw [sweepAt_step inside]
      cases trivia : tokens[index].isTrivia with
      | true =>
        rw [alike.trivia index _ present trivia]
        simp only [← onward, Nat.zero_add, bareIndex_succ_of_trivia present trivia]
      | false =>
        have place := (List.getElem?_eq_some_iff.mp (getElem?_bare present trivia)).1
        rw [sweepAt_step place, Site.at_bareIndex, alike.significant index _ present trivia]
        cases recognize (Site.at tokens index) with
        | pass last => simp only [Verdict.bare, ← onward, bareIndex_behind present trivia]
        | report span last =>
          simp only [Verdict.bare, List.map_cons, ← onward, bareIndex_behind present trivia]
        | halt => rfl
    · rw [sweepAt_end ended, sweepAt_end (by rw [bareIndex_of_length_le ended])]
      rfl

/-- Recognizers that decide alike report the same spans. -/
theorem sweep_bare {recognize other : Site → Verdict} {tokens : List Token}
    (alike : BareAlike recognize other tokens) :
    sweep other (bare tokens) = (sweep recognize tokens).map (Span.bare tokens) := by
  have swept := sweepAt_bare alike 0
  rwa [bareIndex_zero, ← sweep_eq_sweepAt, ← sweep_eq_sweepAt] at swept

section

variable {tokens : List Token} {index : Nat} {token : Token}

/-- Ahead of an index lies the token there. -/
theorem Site.ahead_at (present : tokens[index]? = some token) :
    (Site.at tokens index).ahead = token :: tokens.drop (index + 1) :=
  drop_eq_cons_of_getElem? present

/-- Ahead of a bare site lies the significant token without its line. -/
theorem Site.ahead_bare (present : tokens[index]? = some token)
    (significant : token.isTrivia = false) :
    (Site.at tokens index).bare.ahead =
      token.unlined :: PhpOutline.bare (tokens.drop (index + 1)) := by
  rw [Site.bare, Site.ahead_at present, bare_cons_of_significant significant]

/-- The place of what lies behind a significant token. -/
theorem bareIndex_after (present : tokens[index]? = some token)
    (significant : token.isTrivia = false) (offset : Nat) :
    bareIndex tokens (index + 1 + offset) =
      bareIndex tokens index + 1 + bareIndex (tokens.drop (index + 1)) offset := by
  rw [bareIndex_add, bareIndex_succ_of_significant present significant]

/-- The place where a range ends that starts with a significant token and has another one. -/
theorem bareLast_after (present : tokens[index]? = some token)
    (significant : token.isTrivia = false) {stop : Nat}
    (counted : 1 ≤ bareIndex (tokens.drop (index + 1)) (stop + 1)) :
    bareLast tokens (index + 1 + stop) =
        bareIndex tokens index + 1 + bareLast (tokens.drop (index + 1)) stop ∧
      bareLast (tokens.drop index) (1 + stop) = 1 + bareLast (tokens.drop (index + 1)) stop := by
  -- The two places are the same, counted from the start of the list and from the index.
  constructor
  · rw [bareLast, Nat.add_assoc (index + 1), bareIndex_after present significant, bareLast]
    omega
  · rw [bareLast, drop_eq_cons_of_getElem? present, bareIndex_cons_of_significant significant,
      Nat.add_comm 1 stop, bareLast]
    omega

/-- The place of a significant token behind another one, as the end of a range. -/
theorem bareLast_after_significant (present : tokens[index]? = some token)
    (significant : token.isTrivia = false) {offset : Nat} {other : Token}
    (standing : (tokens.drop (index + 1))[offset]? = some other)
    (kept : other.isTrivia = false) :
    bareLast tokens (index + 1 + offset) =
        bareIndex tokens index + 1 + bareIndex (tokens.drop (index + 1)) offset ∧
      bareLast (tokens.drop index) (1 + offset) =
        1 + bareIndex (tokens.drop (index + 1)) offset := by
  -- A significant token is the last bare one of its own, and it counts.
  rw [← bareLast_of_significant standing kept]
  refine bareLast_after present significant ?_
  rw [bareIndex_succ_of_significant standing kept]
  exact Nat.le_add_left 1 _

/-- Passing over a single significant token is the same verdict. -/
theorem Verdict.bare_pass_zero (present : tokens[index]? = some token)
    (significant : token.isTrivia = false) : (Verdict.pass 0).bare tokens index = .pass 0 := by
  rw [Verdict.bare, bareLast, drop_eq_cons_of_getElem? present,
    bareIndex_cons_of_significant significant, bareIndex_zero]

end

end PhpOutline
