import Mathlib
import PhpOutline.Proofs.Cursor

/-!
A cursor over every run of moves.

Its position never leaves the range of a signed word, and kept in such a word it is moved alike.
While no move asks for an index behind the end, it stays on the tokens or right beside them, and
the opposite step undoes every step that is not stopped at an end.
-/

namespace PhpOutline

/-- One move that a cursor can be asked for. -/
inductive Cursor.Move where
  | next
  | back
  /-- A jump to an index that fits in a word of 64 bits. -/
  | seek (index : UInt64)
deriving DecidableEq, Repr

/-- The cursor after a move. -/
def Cursor.move (cursor : Cursor) : Cursor.Move → Cursor
  -- Only the position changes.
  | .next => cursor.next
  | .back => cursor.back
  | .seek index => cursor.seek index.toNat

/-- The cursor after some moves, the first of them from the first token. -/
def Cursor.run (tokens : List Token) (moves : List Cursor.Move) : Cursor :=
  -- Each move starts where the one before it came to rest.
  moves.foldl Cursor.move (Cursor.start tokens)

/-- The last move of a run starts where the run came to rest before it. -/
theorem Cursor.run_concat (tokens : List Token) (moves : List Cursor.Move) (move : Cursor.Move) :
    Cursor.run tokens (moves ++ [move]) = (Cursor.run tokens moves).move move :=
  List.foldl_concat Cursor.move (Cursor.start tokens) move moves

section Bounds

/-- A cursor right before the first token, or at an index up to a bound. -/
structure Cursor.Within (bound : Nat) (cursor : Cursor) : Prop where
  lower : -1 ≤ cursor.position
  upper : cursor.position ≤ bound

/-- A move leaves the tokens as they are. -/
@[simp] theorem Cursor.tokens_move (cursor : Cursor) (move : Cursor.Move) :
    (cursor.move move).tokens = cursor.tokens := by
  -- A move only changes the position.
  cases move with
  | next =>
    simp only [Cursor.move, Cursor.next]
    split <;> rfl
  | back =>
    simp only [Cursor.move, Cursor.back]
    split <;> rfl
  | seek index => rfl

/-- A run leaves the tokens as they are. -/
@[simp] theorem Cursor.tokens_run (tokens : List Token) (moves : List Cursor.Move) :
    (Cursor.run tokens moves).tokens = tokens := by
  -- The induction is on the moves from the last one back, as the run grows at its end.
  induction moves using List.reverseRecOn with
  | nil => rfl
  | append_singleton moves move ih =>
    rw [Cursor.run_concat, Cursor.tokens_move, ih]

/-- No step leads outside of bounds that hold all tokens, nor does a jump to an index inside. -/
theorem Cursor.Within.move {bound : Nat} {cursor : Cursor} (within : cursor.Within bound)
    (holds : cursor.tokens.length ≤ bound) {move : Cursor.Move}
    (seeks : ∀ index, move = .seek index → min index.toNat Cursor.limit ≤ bound) :
    (cursor.move move).Within bound := by
  have lower := within.lower
  have upper := within.upper
  cases move with
  | next =>
    simp only [Cursor.move, Cursor.next]
    split
    · constructor
      · show -1 ≤ cursor.position + 1
        omega
      · show cursor.position + 1 ≤ bound
        omega
    · exact within
  -- Either step is only taken from inside the list, so it passes an end by one place at most.
  | back =>
    simp only [Cursor.move, Cursor.back]
    split
    · constructor
      · show -1 ≤ cursor.position - 1
        omega
      · show cursor.position - 1 ≤ bound
        omega
    · exact within
  | seek index =>
    -- A seek leads to the index, but never past the limit.
    have reached := seeks index rfl
    constructor
    · show -1 ≤ ((min index.toNat Cursor.limit : Nat) : Int)
      omega
    · show ((min index.toNat Cursor.limit : Nat) : Int) ≤ bound
      omega

/-- A run stays inside of bounds that hold all tokens and all indices that it jumps to. -/
theorem Cursor.within_run {bound : Nat} {tokens : List Token} {moves : List Cursor.Move}
    (holds : tokens.length ≤ bound)
    (seeks : ∀ index, .seek index ∈ moves → min index.toNat Cursor.limit ≤ bound) :
    (Cursor.run tokens moves).Within bound := by
  -- The last move starts inside, by the bounds of the run before it.
  induction moves using List.reverseRecOn with
  | nil =>
    constructor
    · show -1 ≤ (0 : Int)
      decide
    · exact Int.natCast_nonneg bound
  | append_singleton moves move ih =>
    have earlier : (Cursor.run tokens moves).Within bound :=
      ih fun index listed => seeks index (by simp [listed])
    rw [Cursor.run_concat]
    apply earlier.move
    · rw [Cursor.tokens_run]
      exact holds
    · intro index last
      exact seeks index (by simp [last])

end Bounds

section Words

/-- A cursor whose position is a signed word, over so many tokens as an unsigned word says. -/
structure WordCursor where
  count : UInt64
  position : Int64

/-- A word cursor on the first token. -/
def WordCursor.start (tokens : List Token) : WordCursor :=
  -- The number of tokens is cut down to a word.
  ⟨UInt64.ofNat tokens.length, 0⟩

/-- The word cursor after a move. -/
def WordCursor.move (cursor : WordCursor) : Cursor.Move → WordCursor
  -- Sums and differences wrap around, and so does the number of tokens as a signed word.
  | .next =>
    if cursor.position < cursor.count.toInt64 then { cursor with position := cursor.position + 1 }
    else cursor
  | .back =>
    if 0 ≤ cursor.position then { cursor with position := cursor.position - 1 } else cursor
  | .seek index =>
    let position := if index ≤ Int64.maxValue.toUInt64 then index.toInt64 else Int64.maxValue
    { cursor with position }

/-- The word cursor after some moves, the first of them from the first token. -/
def WordCursor.run (tokens : List Token) (moves : List Cursor.Move) : WordCursor :=
  -- Each move starts where the one before it came to rest.
  moves.foldl WordCursor.move (WordCursor.start tokens)

/-- The index of the token under a word cursor, if there is one. -/
def WordCursor.index? (cursor : WordCursor) : Option UInt64 :=
  -- The sign is looked at first, and then the position is compared as an unsigned word.
  if 0 ≤ cursor.position ∧ cursor.position.toUInt64 < cursor.count then
    some cursor.position.toUInt64
  else none

/-- A word cursor that stands at the exact position of a cursor over as many tokens. -/
structure WordCursor.IsAt (word : WordCursor) (cursor : Cursor) : Prop where
  count : word.count.toNat = cursor.tokens.length
  position : word.position.toInt = cursor.position

/-- An unsigned word below the sign bit has the same value as a signed word. -/
theorem toInt_toInt64 {word : UInt64} (small : word.toNat ≤ Cursor.limit) :
    word.toInt64.toInt = word.toNat := by
  -- Both words have the same bits, and the sign bit is not among those that are set.
  have below : 2 * word.toBitVec.toNat < 2 ^ 64 := by
    show 2 * word.toNat < 2 ^ 64
    have limit : Cursor.limit = 2 ^ 63 - 1 := rfl
    omega
  rw [← Int64.toInt_toBitVec, UInt64.toBitVec_toInt64, BitVec.toInt_eq_toNat_of_lt below]
  rfl

/-- A signed word that is not negative has the same value as an unsigned word. -/
theorem toNat_toUInt64 {word : Int64} (positive : 0 ≤ word.toInt) :
    (word.toUInt64.toNat : Int) = word.toInt := by
  rw [Int64.toNat_toUInt64_of_le (Int64.le_iff_toInt_le.mpr positive)]
  exact Int.toNat_of_nonneg positive

/-- An index that does not fit in a signed word is cut down to the greatest one that does. -/
theorem toInt_seek (index : UInt64) :
    (if index ≤ Int64.maxValue.toUInt64 then index.toInt64 else Int64.maxValue).toInt =
      (min index.toNat Cursor.limit : Nat) := by
  have fits : index ≤ Int64.maxValue.toUInt64 ↔ index.toNat ≤ Cursor.limit := UInt64.le_iff_toNat_le
  -- An index that a signed word can hold is taken as it is, and any other one becomes the greatest.
  by_cases small : index.toNat ≤ Cursor.limit
  · rw [if_pos (fits.mpr small), toInt_toInt64 small, Nat.min_eq_left small]
  · rw [if_neg (mt fits.mp small), Nat.min_eq_right (by omega)]
    rfl

/-- A position in the range of a cursor is not wrapped around. -/
theorem bmod_position {position : Int} (lower : -1 ≤ position) (upper : position ≤ Cursor.limit) :
    position.bmod (2 ^ 64) = position := by
  -- A position fits into a signed word, so nothing wraps around.
  have limit : (Cursor.limit : Int) = 2 ^ 63 - 1 := rfl
  apply Int.bmod_eq_of_le
  · show -(2 ^ 64 / 2 : Int) ≤ position
    omega
  · show position < (2 ^ 64 + 1) / 2
    omega

/-- A word cursor has left the tokens at the front exactly when the cursor has. -/
theorem WordCursor.IsAt.nonneg_iff {word : WordCursor} {cursor : Cursor} (same : word.IsAt cursor) :
    0 ≤ word.position ↔ 0 ≤ cursor.position := by
  rw [Int64.le_iff_toInt_le, same.position]
  rfl

/-- A move in words does not overflow: it leads where the exact move leads. -/
theorem WordCursor.IsAt.move {word : WordCursor} {cursor : Cursor} (same : word.IsAt cursor)
    (fits : cursor.tokens.length ≤ Cursor.limit) (within : cursor.Within Cursor.limit)
    (move : Cursor.Move) : (word.move move).IsAt (cursor.move move) := by
  -- Both make the same comparisons, so they step together, and what they reach is in range.
  have lower := within.lower
  have upper := within.upper
  have count : word.count.toInt64.toInt = cursor.tokens.length := by
    rw [toInt_toInt64 (by rw [same.count]; exact fits), same.count]
  cases move with
  | next =>
    have before : word.position < word.count.toInt64 ↔
        cursor.position < cursor.tokens.length := by
      rw [Int64.lt_iff_toInt_lt, count, same.position]
    simp only [WordCursor.move, Cursor.move, Cursor.next, before]
    split
    · -- In front of the end there is room for one more step.
      refine ⟨same.count, ?_⟩
      show (word.position + 1).toInt = cursor.position + 1
      rw [Int64.toInt_add, same.position]
      show (cursor.position + 1).bmod (2 ^ 64) = cursor.position + 1
      exact bmod_position (by omega) (by omega)
    · exact same
  | back =>
    simp only [WordCursor.move, Cursor.move, Cursor.back, same.nonneg_iff]
    split
    · refine ⟨same.count, ?_⟩
      show (word.position - 1).toInt = cursor.position - 1
      rw [Int64.toInt_sub, same.position]
      show (cursor.position - 1).bmod (2 ^ 64) = cursor.position - 1
      exact bmod_position (by omega) (by omega)
    · exact same
  | seek index => exact ⟨same.count, toInt_seek index⟩

/-- A cursor and a word cursor have the same index. -/
theorem WordCursor.IsAt.index?_eq {word : WordCursor} {cursor : Cursor} (same : word.IsAt cursor) :
    word.index?.map UInt64.toNat = cursor.index? := by
  -- Behind the start the unsigned comparison is that of the exact position.
  have behind := same.nonneg_iff
  by_cases positive : 0 ≤ cursor.position
  · have value := toNat_toUInt64 (by rwa [same.position] : 0 ≤ word.position.toInt)
    rw [same.position] at value
    have before : word.position.toUInt64 < word.count ↔
        cursor.position < cursor.tokens.length := by
      rw [UInt64.lt_iff_toNat_lt, same.count]
      omega
    have index : word.position.toUInt64.toNat = cursor.position.toNat := by omega
    by_cases inside : cursor.position < cursor.tokens.length
    · simp [WordCursor.index?, Cursor.index?, behind, positive, before, inside, index]
    · simp [WordCursor.index?, Cursor.index?, behind, positive, before, inside]
  · simp [WordCursor.index?, Cursor.index?, behind, positive]

/-- Over as many tokens as a signed word counts, a run in words does not overflow. -/
theorem WordCursor.isAt_run {tokens : List Token} (fits : tokens.length ≤ Cursor.limit)
    (moves : List Cursor.Move) : (WordCursor.run tokens moves).IsAt (Cursor.run tokens moves) := by
  -- Both take the last move from the same position, which is in range.
  induction moves using List.reverseRecOn with
  | nil =>
    have limit : Cursor.limit = 2 ^ 63 - 1 := rfl
    refine ⟨?_, rfl⟩
    show (UInt64.ofNat tokens.length).toNat = tokens.length
    apply UInt64.toNat_ofNat_of_lt'
    show tokens.length < 2 ^ 64
    omega
  | append_singleton moves move ih =>
    have within : (Cursor.run tokens moves).Within Cursor.limit :=
      Cursor.within_run fits fun index _ => Nat.min_le_right index.toNat Cursor.limit
    rw [WordCursor.run, List.foldl_concat, Cursor.run_concat]
    apply ih.move
    · rw [Cursor.tokens_run]
      exact fits
    · exact within

end Words

section Ends

/-- From any place up to the end, steps forward come to rest right behind the last token. -/
theorem Cursor.iterate_next {cursor : Cursor} (upper : cursor.position ≤ cursor.tokens.length)
    (count : Nat) : Cursor.next^[count] cursor =
      { cursor with position := min (cursor.position + count) cursor.tokens.length } := by
  -- Each step adds one until the end, and from there on the position stays.
  induction count with
  | zero =>
    have still : min (cursor.position + (0 : Nat)) cursor.tokens.length = cursor.position := by
      omega
    rw [still]
    rfl
  | succ count ih =>
    rw [Function.iterate_succ_apply', ih, Cursor.next]
    dsimp only
    split
    · rw [show min (cursor.position + count) cursor.tokens.length + 1 =
        min (cursor.position + (count + 1 : Nat)) cursor.tokens.length by omega]
    · rw [show min (cursor.position + count) cursor.tokens.length =
        min (cursor.position + (count + 1 : Nat)) cursor.tokens.length by omega]

/-- From any place but those in front of the start, steps back come to rest right before it. -/
theorem Cursor.iterate_back {cursor : Cursor} (lower : -1 ≤ cursor.position) (count : Nat) :
    Cursor.back^[count] cursor =
      { cursor with position := max (cursor.position - count) (-1) } := by
  -- Each step takes one until the place before the start, and from there on the position stays.
  induction count with
  | zero =>
    have still : max (cursor.position - (0 : Nat)) (-1) = cursor.position := by omega
    rw [still]
    rfl
  | succ count ih =>
    rw [Function.iterate_succ_apply', ih, Cursor.back]
    dsimp only
    split
    · rw [show max (cursor.position - count) (-1) - 1 =
        max (cursor.position - (count + 1 : Nat)) (-1) by omega]
    · rw [show max (cursor.position - count) (-1) =
        max (cursor.position - (count + 1 : Nat)) (-1) by omega]

/-- A step back undoes a step forward exactly in front of the end. -/
theorem Cursor.back_next_eq_iff {cursor : Cursor} (lower : -1 ≤ cursor.position) :
    cursor.next.back = cursor ↔ cursor.position < cursor.tokens.length := by
  obtain ⟨tokens, position⟩ := cursor
  dsimp only at lower ⊢
  by_cases before : position < tokens.length
  · -- From inside the list or before it, the step ahead is taken back.
    have behind : 0 ≤ position + 1 := by omega
    simp [Cursor.next, Cursor.back, before, behind]
  · -- At the end no step ahead is taken, so the step back leads away.
    have behind : 0 ≤ position := by omega
    simp [Cursor.next, Cursor.back, before, behind]

/-- A step forward undoes a step back exactly on the tokens and right behind the last one. -/
theorem Cursor.next_back_eq_iff {cursor : Cursor} :
    cursor.back.next = cursor ↔
      0 ≤ cursor.position ∧ cursor.position ≤ cursor.tokens.length := by
  obtain ⟨tokens, position⟩ := cursor
  dsimp only
  by_cases behind : 0 ≤ position
  · -- A step back from a place at most at the end leads to where a step ahead is taken.
    by_cases upper : position ≤ tokens.length
    · have before : position - 1 < tokens.length := by omega
      simp [Cursor.next, Cursor.back, before, behind, upper]
    · have before : ¬position - 1 < tokens.length := by omega
      simp [Cursor.next, Cursor.back, before, behind, upper]
  · -- Before the start no step back is taken, so the step ahead leads away.
    have before : position < tokens.length := by omega
    simp [Cursor.next, Cursor.back, before, behind]

/-- A cursor stands on a token exactly when it has an index. -/
theorem Cursor.isSome_current?_iff {cursor : Cursor} :
    cursor.current?.isSome ↔ ∃ index < cursor.tokens.length, cursor.index? = some index := by
  -- A cursor has a token exactly where its position is an index.
  constructor
  · intro here
    obtain ⟨token, current⟩ := Option.isSome_iff_exists.mp here
    obtain ⟨tokens, index, rfl, present⟩ := Cursor.exists_at current
    obtain ⟨inside, -⟩ := List.getElem?_eq_some_iff.mp present
    exact ⟨index, inside, Cursor.index?_eq_some_iff.mpr ⟨inside, rfl⟩⟩
  · intro located
    obtain ⟨index, inside, valid⟩ := located
    simp [Cursor.current?, valid, inside]

/-- After any steps past the end, one step back leads to the last token. -/
theorem Cursor.back_iterate_next {cursor : Cursor} (filled : cursor.tokens ≠ [])
    (upper : cursor.position ≤ cursor.tokens.length) {count : Nat}
    (past : cursor.tokens.length ≤ cursor.position + count) :
    (Cursor.next^[count] cursor).index? = none ∧
      (Cursor.next^[count] cursor).back.index? = some (cursor.tokens.length - 1) := by
  -- The steps are stopped right behind the last token, so the way back is one step.
  have positive := List.length_pos_iff.mpr filled
  have stopped : min (cursor.position + count) cursor.tokens.length =
      (cursor.tokens.length : Int) := by omega
  rw [Cursor.iterate_next upper, stopped]
  constructor
  · simp [Cursor.index?]
  · rw [Cursor.index?_eq_some_iff]
    simp only [Cursor.back, Int.natCast_nonneg, if_true]
    omega

/-- After any steps past the start, one step forward leads to the first token. -/
theorem Cursor.next_iterate_back {cursor : Cursor} (filled : cursor.tokens ≠ [])
    (lower : -1 ≤ cursor.position) {count : Nat} (past : cursor.position < count) :
    (Cursor.back^[count] cursor).index? = none ∧
      (Cursor.back^[count] cursor).next.index? = some 0 := by
  -- The steps are stopped right before the first token, so the way back is one step.
  have positive := List.length_pos_iff.mpr filled
  have stopped : max (cursor.position - count) (-1) = -1 := by omega
  rw [Cursor.iterate_back lower, stopped]
  constructor
  · simp [Cursor.index?]
  · have before : (-1 : Int) < cursor.tokens.length := by omega
    rw [Cursor.index?_eq_some_iff]
    simp only [Cursor.next, before, if_true]
    omega

end Ends

/--
Over every run of moves, whatever indices it jumps to, the position stays in a signed word.

Tokens in memory are no more than such a word counts, so a run in words never overflows: it comes
to the exact position and has the same index, which is always the index of a token.
While no jump leads behind the end, the position is that of a token or right beside them, a step is
undone by the opposite one unless it was stopped at an end, and after any steps past an end a
single opposite one leads back to the nearest token.
-/
theorem cursor_saturates (tokens : List Token) (moves : List Cursor.Move) :
    let cursor := Cursor.run tokens moves
    let word := WordCursor.run tokens moves
    cursor.Within (max tokens.length Cursor.limit) ∧
    (tokens.length ≤ Cursor.limit →
      cursor.Within Cursor.limit ∧ word.IsAt cursor ∧
      word.index?.map UInt64.toNat = cursor.index?) ∧
    (∀ index, cursor.index? = some index → index < tokens.length ∧ cursor.position = index ∧
      cursor.current? = tokens[index]?) ∧
    (cursor.current?.isSome ↔ ∃ index < tokens.length, cursor.index? = some index) ∧
    ((∀ index, .seek index ∈ moves → index.toNat ≤ tokens.length) →
      cursor.Within tokens.length ∧
      (cursor.next.back = cursor ↔ cursor.position < tokens.length) ∧
      (cursor.back.next = cursor ↔ 0 ≤ cursor.position) ∧
      (tokens ≠ [] → ∀ count : Nat,
        (tokens.length ≤ cursor.position + count →
          (Cursor.next^[count] cursor).index? = none ∧
          (Cursor.next^[count] cursor).back.index? = some (tokens.length - 1)) ∧
        (cursor.position < count →
          (Cursor.back^[count] cursor).index? = none ∧
          (Cursor.back^[count] cursor).next.index? = some 0))) := by
  intro cursor word
  have own : cursor.tokens = tokens := Cursor.tokens_run tokens moves
  refine ⟨?_, ?_, ?_, ?_, ?_⟩
  · apply Cursor.within_run (Nat.le_max_left _ _)
    intro index _
    omega
  · intro fits
    -- The machine word is related to the exact position along the whole run.
    have same : word.IsAt cursor := WordCursor.isAt_run fits moves
    refine ⟨?_, same, same.index?_eq⟩
    exact Cursor.within_run fits fun index _ => Nat.min_le_right index.toNat Cursor.limit
  · intro index valid
    obtain ⟨inside, position⟩ := Cursor.index?_eq_some_iff.mp valid
    rw [own] at inside
    refine ⟨inside, position, ?_⟩
    rw [Cursor.current?, valid, Option.bind_some, own]
  · rw [Cursor.isSome_current?_iff, own]
  · intro seeks
    -- With every seek inside the list, the bound is the length of the list.
    have within : cursor.Within tokens.length := by
      apply Cursor.within_run (Nat.le_refl _)
      intro index listed
      have bounded := seeks index listed
      omega
    have upper := within.upper
    refine ⟨within, ?_, ?_, ?_⟩
    · rw [Cursor.back_next_eq_iff within.lower, own]
    · rw [Cursor.next_back_eq_iff, own]
      exact and_iff_left upper
    · intro filled count
      rw [← own] at filled upper ⊢
      exact ⟨Cursor.back_iterate_next filled upper, Cursor.next_iterate_back filled within.lower⟩

/-- Three tokens, left at both ends. -/
theorem cursor_saturates_left_twice :
    let tokens : List Token := [.symbol '(', .symbol ',', .symbol ')']
    let moves : List Cursor.Move :=
      [.next, .next, .next, .next, .back, .seek 3, .next, .seek 0, .back, .back]
    let cursor := Cursor.run tokens moves
    tokens.length ≤ Cursor.limit ∧ tokens ≠ [] ∧
      (∀ index, .seek index ∈ moves → index.toNat ≤ tokens.length) ∧ cursor.position = -1 ∧
      (WordCursor.run tokens moves).IsAt cursor ∧ cursor.Within 3 ∧ cursor.next.back = cursor ∧
      (Cursor.next^[9] cursor).back.index? = some 2 ∧
      (Cursor.back^[9] cursor).next.index? = some 0 := by
  intro tokens moves cursor
  have fits : tokens.length ≤ Cursor.limit := by decide
  have filled : tokens ≠ [] := by decide
  have seeks : ∀ index, .seek index ∈ moves → index.toNat ≤ tokens.length := by
    intro index listed
    have asked : index = 3 ∨ index = 0 := by simpa [moves] using listed
    rcases asked with rfl | rfl <;> decide
  -- The run ends before the start, two steps back from the first token.
  have position : cursor.position = -1 := by decide
  obtain ⟨-, words, -, -, bounded⟩ := cursor_saturates tokens moves
  obtain ⟨within, undone, -, ends⟩ := bounded seeks
  obtain ⟨forward, backward⟩ := ends filled 9
  refine ⟨fits, filled, seeks, position, (words fits).2.1, within, undone.mpr ?_,
    (forward ?_).2, (backward ?_).2⟩
  · show cursor.position < 3
    omega
  · show (3 : Int) ≤ cursor.position + (9 : Nat)
    omega
  · show cursor.position < (9 : Nat)
    omega

end PhpOutline
