import PhpOutline.Nesting
import PhpOutline.Proofs.Token.Basic

/-! Where a walk to a closing delimiter ends, and that its depth never falls below zero. -/

namespace PhpOutline

/-- A character opens a pair exactly when it is the opener of the pair. -/
theorem Delimiter.ofOpener?_eq_some_iff {char : Char} {delimiter : Delimiter} :
    Delimiter.ofOpener? char = some delimiter ↔ char = delimiter.opener := by
  -- The three openers are told apart one after the other.
  constructor
  · intro opened
    simp only [Delimiter.ofOpener?, beq_iff_eq] at opened
    split at opened
    · obtain rfl := Option.some.inj opened
      assumption
    · split at opened
      · obtain rfl := Option.some.inj opened
        assumption
      · split at opened
        · obtain rfl := Option.some.inj opened
          assumption
        · simp at opened
  · rintro rfl
    cases delimiter <;> rfl

/-- No character both opens and closes the same pair. -/
theorem Delimiter.opener_ne_closer (delimiter : Delimiter) :
    delimiter.opener ≠ delimiter.closer := by
  cases delimiter <;> decide

/-- What opens a pair is the symbol of its opener. -/
theorem openedBy?_eq_some_iff {tokens : List Token} {delimiter : Delimiter} :
    openedBy? tokens = some delimiter ↔ ∃ rest, tokens = .symbol delimiter.opener :: rest := by
  unfold openedBy?
  split
  · simp [Delimiter.ofOpener?_eq_some_iff]
  · -- A typed token opens nothing, and it is no symbol.
    rename_i typed
    constructor
    · simp
    · rintro ⟨rest, rfl⟩
      exact absurd rfl (typed _ _)

/-- A walk that ends does so on the closer of its pair. -/
theorem getElem?_of_closerFrom {delimiter : Delimiter} {depth offset : Nat} {tokens : List Token}
    (found : closerFrom delimiter depth tokens = some offset) :
    tokens[offset]? = some (.symbol delimiter.closer) := by
  -- Every step but the last adds one to the offset that the rest of the walk finds.
  fun_induction closerFrom delimiter depth tokens generalizing offset with
  | case1 => simp at found
  | case2 depth token rest opens ih =>
    obtain ⟨later, walked, rfl⟩ := Option.map_eq_some_iff.mp found
    simpa using ih walked
  | case3 depth token rest _ closes =>
    obtain rfl := Option.some.inj found
    simpa using Token.isSymbol_iff.mp closes
  | case4 depth token rest _ _ _ ih =>
    obtain ⟨later, walked, rfl⟩ := Option.map_eq_some_iff.mp found
    simpa using ih walked
  | case5 depth token rest _ _ ih =>
    obtain ⟨later, walked, rfl⟩ := Option.map_eq_some_iff.mp found
    simpa using ih walked

/-- A walk from an opener ends after it. -/
theorem closerOffset?_pos {delimiter : Delimiter} {offset : Nat} {tokens : List Token}
    (opened : openedBy? tokens = some delimiter)
    (found : closerOffset? delimiter tokens = some offset) : 0 < offset := by
  -- The opener is no closer, so the walk cannot end on the token it starts from.
  rcases Nat.eq_zero_or_pos offset with rfl | positive
  · obtain ⟨rest, rfl⟩ := openedBy?_eq_some_iff.mp opened
    have closes := getElem?_of_closerFrom found
    simp [delimiter.opener_ne_closer] at closes
  · exact positive

/-- A part that opens at an offset is closed further on, by the closer of its pair. -/
theorem closerAt?_spec {tokens : List Token} {offset close : Nat}
    (found : closerAt? tokens offset = some close) :
    ∃ delimiter : Delimiter, tokens[offset]? = some (.symbol delimiter.opener) ∧
      offset < close ∧ tokens[close]? = some (.symbol delimiter.closer) := by
  simp only [closerAt?] at found
  split at found
  · simp at found
  · rename_i delimiter opened
    -- The walk starts at the opener itself, so it ends at a later token.
    obtain ⟨walked, reached, rfl⟩ := Option.map_eq_some_iff.mp found
    have positive := closerOffset?_pos opened reached
    have closes := getElem?_of_closerFrom reached
    rw [List.getElem?_drop, Nat.add_comm] at closes
    obtain ⟨rest, ahead⟩ := openedBy?_eq_some_iff.mp opened
    have opens : (tokens.drop offset)[0]? = some (.symbol delimiter.opener) := by simp [ahead]
    rw [List.getElem?_drop] at opens
    exact ⟨delimiter, opens, by omega, closes⟩

/-- The walk to a closer that gives up where its depth would fall below zero. -/
def guardedCloserFrom (delimiter : Delimiter) : Nat → List Token → Option (Option Nat)
  -- The outer option is empty exactly where one would be taken from a depth of zero.
  | _, [] => some none
  | depth, token :: rest =>
    if token.isSymbol delimiter.opener then
      (guardedCloserFrom delimiter (depth + 1) rest).map (·.map (· + 1))
    else if token.isSymbol delimiter.closer then
      match depth with
      | 0 => none
      | 1 => some (some 0)
      | depth + 2 => (guardedCloserFrom delimiter (depth + 1) rest).map (·.map (· + 1))
    else (guardedCloserFrom delimiter depth rest).map (·.map (· + 1))

/-- Inside an open part the guard never applies. -/
theorem guardedCloserFrom_succ (delimiter : Delimiter) (depth : Nat) (tokens : List Token) :
    guardedCloserFrom delimiter (depth + 1) tokens =
      some (closerFrom delimiter (depth + 1) tokens) := by
  -- A closer either ends the walk or leaves at least one part open.
  induction tokens generalizing depth with
  | nil => rfl
  | cons token rest ih =>
    simp only [guardedCloserFrom, closerFrom]
    by_cases opens : token.isSymbol delimiter.opener = true
    · simp [opens, ih (depth + 1)]
    · by_cases closes : token.isSymbol delimiter.closer = true
      · cases depth with
        | zero => simp [opens, closes]
        | succ depth => simp [opens, closes, ih depth]
      · simp [opens, closes, ih depth]

/-- A walk that starts on an opener never takes one from a depth of zero. -/
theorem guardedCloserFrom_eq {delimiter : Delimiter} {tokens : List Token}
    (opened : openedBy? tokens = some delimiter) :
    guardedCloserFrom delimiter 0 tokens = some (closerOffset? delimiter tokens) := by
  -- The opener itself raises the depth to one before anything can close.
  obtain ⟨rest, rfl⟩ := openedBy?_eq_some_iff.mp opened
  simp [guardedCloserFrom, closerOffset?, closerFrom, Token.isSymbol, guardedCloserFrom_succ]

end PhpOutline
