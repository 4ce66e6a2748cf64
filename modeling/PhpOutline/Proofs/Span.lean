import PhpOutline.Proofs.Site
import PhpOutline.Span

/-!
Sweeps seen from the whole list: where their spans come from, and that they keep their order.

A sweep that has passed over some tokens stands at the index of the next one.
What one recognizer reports at an index decides what all later spans look like.
-/

namespace PhpOutline

/-- From an index on, a list starts with the token there. -/
theorem drop_eq_cons_of_getElem? {tokens : List Token} {index : Nat} {token : Token}
    (present : tokens[index]? = some token) :
    tokens.drop index = token :: tokens.drop (index + 1) := by
  rw [List.drop_eq_getElem?_toList_append, present, Option.toList_some, List.singleton_append]

/-- The tokens of a span lie at the indices from its first to its last. -/
theorem Span.getElem?_tokens {span : Span} {tokens : List Token} {offset : Nat}
    (inside : span.first + offset ≤ span.last) :
    (span.tokens tokens)[offset]? = tokens[span.first + offset]? := by
  rw [Span.tokens, List.getElem?_drop, List.getElem?_take_of_lt (by omega)]

/-- A span inside a list has one token for each of its indices. -/
theorem Span.length_tokens {span : Span} {tokens : List Token}
    (inside : span.last < tokens.length) :
    (span.tokens tokens).length = span.last + 1 - span.first := by
  rw [Span.tokens, List.length_drop, List.length_take, Nat.min_eq_left (by omega)]

/-- Before an index of the list stand as many tokens as the index says. -/
@[simp] theorem Site.index_at {tokens : List Token} {index : Nat} (inside : index ≤ tokens.length) :
    (Site.at tokens index).index = index := by
  simp [Site.at, Site.index, Nat.min_eq_left inside]

/-- What lies ahead of an index is the token there and the tokens after it. -/
theorem Site.ahead_at_eq_cons {tokens after : List Token} {token : Token} {index : Nat}
    (ahead : (Site.at tokens index).ahead = token :: after) :
    index < tokens.length ∧ tokens[index]? = some token ∧ after = tokens.drop (index + 1) := by
  -- The tokens ahead are the list from the index on, and the first of them is there.
  have here : tokens.drop index = token :: after := ahead
  have present : tokens[index]? = some token := by
    rw [← List.head?_drop, here, List.head?_cons]
  refine ⟨(List.getElem?_eq_some_iff.mp present).1, present, ?_⟩
  rw [← List.drop_drop, here, List.drop_succ_cons, List.drop_zero]

/-- The nearest token behind an index is the one right before it. -/
theorem Site.getElem?_behind_at {tokens : List Token} {index offset : Nat}
    (inside : index ≤ tokens.length) (near : offset < index) :
    (Site.at tokens index).behind[offset]? = tokens[index - 1 - offset]? := by
  -- What is behind is the front of the list read backwards.
  simp only [Site.at]
  rw [List.getElem?_reverse (by simp; omega), List.getElem?_take_of_lt (by simp; omega)]
  simp [Nat.min_eq_left inside]

/-- Advancing from one index leads to another. -/
theorem Site.advance_at (tokens : List Token) (index count : Nat) :
    (Site.at tokens index).advance count = Site.at tokens (index + count) := by
  simp [Site.at, Site.advance, List.take_add, List.drop_drop]

/-- The spans that a sweep reports from an index of the list on. -/
def sweepAt (recognize : Site → Verdict) (tokens : List Token) (index : Nat) : List Span :=
  -- The tokens before the index are behind the sweep.
  sweepFrom recognize (Site.at tokens index).behind (Site.at tokens index).ahead

/-- A sweep of the whole list starts at its first index. -/
theorem sweep_eq_sweepAt (recognize : Site → Verdict) (tokens : List Token) :
    sweep recognize tokens = sweepAt recognize tokens 0 := by
  simp [sweep, sweepAt, Site.at]

/-- Nothing is reported after the last token. -/
theorem sweepAt_end {recognize : Site → Verdict} {tokens : List Token} {index : Nat}
    (ended : tokens.length ≤ index) : sweepAt recognize tokens index = [] := by
  have nothing : (Site.at tokens index).ahead = [] := List.drop_eq_nil_of_le ended
  rw [sweepAt, nothing, sweepFrom]

/-- At a token the verdict decides what is reported and where the sweep goes on. -/
theorem sweepAt_step {recognize : Site → Verdict} {tokens : List Token} {index : Nat}
    (inside : index < tokens.length) :
    sweepAt recognize tokens index =
      match recognize (Site.at tokens index) with
      | .pass last => sweepAt recognize tokens (index + (last + 1))
      | .report span last => span :: sweepAt recognize tokens (index + (last + 1))
      | .halt => [] := by
  have ahead : (Site.at tokens index).ahead = tokens[index] :: tokens.drop (index + 1) :=
    List.drop_eq_getElem_cons inside
  -- Taking the passed tokens off the list ahead is advancing the site.
  have advanced : ∀ last, sweepFrom recognize
      (((Site.at tokens index).ahead.take (last + 1)).reverse ++ (Site.at tokens index).behind)
      ((tokens.drop (index + 1)).drop last) = sweepAt recognize tokens (index + (last + 1)) := by
    intro last
    rw [sweepAt, ← Site.advance_at, Site.advance, ahead, List.drop_succ_cons]
  have here : (⟨(Site.at tokens index).behind, (Site.at tokens index).ahead⟩ : Site) =
      Site.at tokens index := rfl
  rw [sweepAt, ahead, sweepFrom, ← ahead, here]
  cases recognize (Site.at tokens index) with
  | pass last => exact advanced last
  | report span last => exact congrArg (span :: ·) (advanced last)
  | halt => rfl

/-- What holds of each verdict holds of a whole sweep, wherever it starts. -/
theorem sweepAt_induction {recognize : Site → Verdict} {tokens : List Token}
    {motive : Nat → List Span → Prop}
    (done : ∀ index, motive index [])
    (pass : ∀ index last spans, index < tokens.length →
      recognize (Site.at tokens index) = .pass last → motive (index + (last + 1)) spans →
      motive index spans)
    (report : ∀ index span last, index < tokens.length →
      recognize (Site.at tokens index) = .report span last →
      motive (index + (last + 1)) (sweepAt recognize tokens (index + (last + 1))) →
      motive index (span :: sweepAt recognize tokens (index + (last + 1)))) :
    ∀ index, motive index (sweepAt recognize tokens index) := by
  intro index
  -- Every verdict but the last one brings the sweep closer to the end.
  induction remaining : tokens.length - index using Nat.strongRecOn generalizing index with
  | ind _ ih =>
    rcases Nat.lt_or_ge index tokens.length with inside | ended
    · rw [sweepAt_step inside]
      cases decided : recognize (Site.at tokens index) with
      | pass last => exact pass index last _ inside decided (ih _ (by omega) _ rfl)
      | report span last => exact report index span last inside decided (ih _ (by omega) _ rfl)
      | halt => exact done index
    · rw [sweepAt_end ended]
      exact done index

/-- Every span of a sweep is reported at an index that the sweep reaches. -/
theorem mem_sweepAt {recognize : Site → Verdict} {tokens : List Token} {index : Nat} {span : Span}
    (listed : span ∈ sweepAt recognize tokens index) :
    ∃ start last, index ≤ start ∧ start < tokens.length ∧
      recognize (Site.at tokens start) = .report span last := by
  revert listed
  refine sweepAt_induction
    (motive := fun index spans => span ∈ spans → ∃ start last, index ≤ start ∧
      start < tokens.length ∧ recognize (Site.at tokens start) = .report span last)
    ?done ?pass ?report index
  case done => simp
  -- A span of the rest was reported at a later site.
  case pass =>
    intro index last spans _ _ ih listed
    obtain ⟨start, stop, later, inside, decided⟩ := ih listed
    exact ⟨start, stop, by omega, inside, decided⟩
  -- The span is the one reported here, or one of the rest.
  case report =>
    intro index own last inside decided ih listed
    rcases List.mem_cons.mp listed with rfl | listed
    · exact ⟨index, last, Nat.le_refl index, inside, decided⟩
    · obtain ⟨start, stop, later, within, other⟩ := ih listed
      exact ⟨start, stop, by omega, within, other⟩

/-- Every span of a whole sweep is reported at some index. -/
theorem mem_sweep {recognize : Site → Verdict} {tokens : List Token} {span : Span}
    (listed : span ∈ sweep recognize tokens) :
    ∃ start last, start < tokens.length ∧ recognize (Site.at tokens start) = .report span last := by
  -- A sweep starts at the first token, so any site will do.
  rw [sweep_eq_sweepAt] at listed
  obtain ⟨start, last, _, inside, decided⟩ := mem_sweepAt listed
  exact ⟨start, last, inside, decided⟩

/-- Spans that lie inside a list of so many tokens, each after the one before it. -/
structure SpansInOrder (count : Nat) (spans : List Span) : Prop where
  /-- No span is reversed, and none reaches past the last token. -/
  bounded : ∀ span ∈ spans, span.first ≤ span.last ∧ span.last < count
  /-- A span ends before every later one starts. -/
  disjoint : spans.Pairwise fun earlier later => earlier.last < later.first

/--
A report that keeps the spans of a sweep in order.

Its span may reach back over tokens that lead, and then has to end on one that does not.
-/
structure ReportInOrder (leads : Token → Bool) (tokens : List Token) (index : Nat) (span : Span)
    (last : Nat) : Prop where
  first_le : span.first ≤ span.last
  last_le : span.last ≤ index + last
  inside : index + last < tokens.length
  /-- Between the start of the span and the index stand only tokens that lead. -/
  reach : ∀ position token, span.first ≤ position → position < index →
    tokens[position]? = some token → leads token = true
  /-- The last token of the span does not lead, unless nothing follows what was passed. -/
  stop : index + last + 1 = tokens.length ∨
    ∃ token, tokens[span.last]? = some token ∧ leads token = false

/-- A sweep whose reports are all in order gives spans in order. -/
theorem spansInOrder_sweep {recognize : Site → Verdict} {tokens : List Token}
    (leads : Token → Bool)
    (orderly : ∀ index span last, index < tokens.length →
      recognize (Site.at tokens index) = .report span last →
      ReportInOrder leads tokens index span last) :
    SpansInOrder tokens.length (sweep recognize tokens) := by
  refine ⟨?_, ?_⟩
  · intro span listed
    obtain ⟨start, last, inside, decided⟩ := mem_sweep listed
    have kept := orderly start span last inside decided
    exact ⟨kept.first_le, Nat.lt_of_le_of_lt kept.last_le kept.inside⟩
  · rw [sweep_eq_sweepAt]
    refine sweepAt_induction
      (motive := fun _ spans => spans.Pairwise fun earlier later => earlier.last < later.first)
      ?done ?pass ?report 0
    case done => exact fun _ => .nil
    case pass => exact fun _ _ _ _ _ ih => ih
    case report =>
      intro index span last inside decided ih
      refine List.pairwise_cons.mpr ⟨fun later listed => ?_, ih⟩
      obtain ⟨start, stop, beyond, within, other⟩ := mem_sweepAt listed
      have earlierKept := orderly index span last inside decided
      have laterKept := orderly start later stop within other
      have passed := earlierKept.last_le
      -- A later span that starts in the earlier one would lead over the last token of that one.
      rcases Nat.lt_or_ge span.last later.first with apart | overlap
      · exact apart
      · rcases earlierKept.stop with ended | ⟨token, present, blocks⟩
        · omega
        · have leading := laterKept.reach span.last token overlap (by omega) present
          simp [leading] at blocks

end PhpOutline
