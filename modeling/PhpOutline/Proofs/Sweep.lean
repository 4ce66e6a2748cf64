import PhpOutline.Proofs.Span

/-!
The places that a sweep comes to stand at.

A span is reported exactly where the sweep stands at the place that reports it.
Every other place was passed over from an earlier one, or lies behind the end of the sweep.
-/

namespace PhpOutline

/-- The offset of the last token that a verdict passes over, unless it ends the sweep. -/
def Verdict.last? : Verdict → Option Nat
  -- A report moves the sweep in the same way as a pass.
  | .pass last => some last
  | .report _ last => some last
  | .halt => none

section

variable {recognize : Site → Verdict} {tokens : List Token}

/-- A sweep from one index comes to stand at another one. -/
inductive SweepReaches (recognize : Site → Verdict) (tokens : List Token) : Nat → Nat → Prop where
  | here (index : Nat) : SweepReaches recognize tokens index index
  | onward {start last index : Nat} (inside : start < tokens.length)
      (passed : (recognize (Site.at tokens start)).last? = some last)
      (later : SweepReaches recognize tokens (start + (last + 1)) index) :
      SweepReaches recognize tokens start index

/-- A sweep never goes back. -/
theorem SweepReaches.le {start index : Nat} (reached : SweepReaches recognize tokens start index) :
    start ≤ index := by
  -- Each verdict sends the sweep further ahead.
  induction reached with
  | here => exact Nat.le_refl _
  | onward _ _ _ ih => omega

/-- Of two places that a sweep stands at, the earlier one passes over nothing of the later one. -/
theorem SweepReaches.exists_last {start place index : Nat}
    (earlier : SweepReaches recognize tokens start place)
    (later : SweepReaches recognize tokens start index) (before : place < index) :
    ∃ last, (recognize (Site.at tokens place)).last? = some last ∧ place + last < index := by
  -- Both places are reached by the same steps up to the earlier one.
  induction earlier with
  | here place =>
    cases later with
    | here => omega
    | onward _ passed further =>
      have beyond := further.le
      exact ⟨_, passed, by omega⟩
  | onward _ passed further ih =>
    cases later with
    | here =>
      have beyond := further.le
      omega
    | onward _ again others =>
      obtain rfl := Option.some.inj (passed.symm.trans again)
      exact ih others before

/-- A sweep stands at an index, or an earlier place ended it or passed over the index. -/
theorem sweepReaches_or_passed {start index : Nat} (begun : start ≤ index)
    (inside : index < tokens.length) :
    SweepReaches recognize tokens start index ∨
      ∃ place, SweepReaches recognize tokens start place ∧ place < index ∧
        ∀ last, (recognize (Site.at tokens place)).last? = some last → index ≤ place + last := by
  -- The induction is on the distance that the sweep still has to go.
  induction distance : index - start using Nat.strongRecOn generalizing start with
  | ind _ ih =>
    rcases Nat.eq_or_lt_of_le begun with rfl | earlier
    · exact .inl (.here start)
    · cases decided : (recognize (Site.at tokens start)).last? with
      | none => exact .inr ⟨start, .here start, earlier, by simp [decided]⟩
      | some last =>
        rcases Nat.lt_or_ge (start + last) index with beyond | covered
        · have step : ∀ {place}, SweepReaches recognize tokens (start + (last + 1)) place →
              SweepReaches recognize tokens start place := .onward (by omega) decided
          rcases ih _ (by omega) (by omega : start + (last + 1) ≤ index) rfl with
            reached | ⟨place, reached, before, covers⟩
          · exact .inl (step reached)
          · exact .inr ⟨place, step reached, before, covers⟩
        · refine .inr ⟨start, .here start, earlier, fun other again => ?_⟩
          obtain rfl := Option.some.inj (decided.symm.trans again)
          exact covered

/-- A sweep reports a span exactly when it stands at a place that reports it. -/
theorem mem_sweepAt_iff {start : Nat} {span : Span} :
    span ∈ sweepAt recognize tokens start ↔
      ∃ index last, SweepReaches recognize tokens start index ∧ index < tokens.length ∧
        recognize (Site.at tokens index) = .report span last := by
  constructor
  · refine sweepAt_induction
      (motive := fun start spans => span ∈ spans → ∃ index last,
        SweepReaches recognize tokens start index ∧ index < tokens.length ∧
          recognize (Site.at tokens index) = .report span last)
      ?done ?pass ?report start
    case done => simp
    -- A pass leads on to a later site, from which the span is reported.
    case pass =>
      intro start passed spans inside decided ih listed
      obtain ⟨index, last, reached, within, reported⟩ := ih listed
      exact ⟨index, last, .onward inside (by rw [decided]; rfl) reached, within, reported⟩
    -- The span is reported here, or at a site that is reached from behind it.
    case report =>
      intro start own passed inside decided ih listed
      rcases List.mem_cons.mp listed with rfl | listed
      · exact ⟨start, passed, .here start, inside, decided⟩
      · obtain ⟨index, last, reached, within, reported⟩ := ih listed
        exact ⟨index, last, .onward inside (by rw [decided]; rfl) reached, within, reported⟩
  · -- In the other direction the induction is on how the site is reached.
    rintro ⟨index, last, reached, within, reported⟩
    induction reached with
    | here index =>
      rw [sweepAt_step within, reported]
      exact List.mem_cons_self
    | onward inside passed _ ih =>
      have listed := ih within reported
      rw [sweepAt_step inside]
      cases decided : recognize (Site.at tokens _) with
      | halt => simp [decided, Verdict.last?] at passed
      | pass other =>
        obtain rfl : other = _ := by simpa [decided, Verdict.last?] using passed
        exact listed
      | report own other =>
        obtain rfl : other = _ := by simpa [decided, Verdict.last?] using passed
        exact List.mem_cons_of_mem _ listed

/-- A whole sweep reports a span exactly when it stands at a place that reports it. -/
theorem mem_sweep_iff {span : Span} :
    span ∈ sweep recognize tokens ↔
      ∃ index last, SweepReaches recognize tokens 0 index ∧ index < tokens.length ∧
        recognize (Site.at tokens index) = .report span last := by
  rw [sweep_eq_sweepAt, mem_sweepAt_iff]

end

end PhpOutline
