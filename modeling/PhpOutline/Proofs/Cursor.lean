import Mathlib
import PhpOutline.Cursor
import PhpOutline.Proofs.Parts

/-!
Where a walk to a closing delimiter comes to rest.

It rests on the first token up to which as much is closed as opened, or behind the last one.
Taken in single steps it ends in the same way, its depth never falls below zero, and a collector
changes nothing about it.
-/

namespace PhpOutline

section Level

variable {delimiter : Delimiter}

/-- How often some tokens open a pair of delimiters. -/
def openings (delimiter : Delimiter) (tokens : List Token) : Nat :=
  -- Other pairs do not count.
  tokens.countP (Token.isSymbol delimiter.opener)

/-- How often some tokens close a pair of delimiters. -/
def closings (delimiter : Delimiter) (tokens : List Token) : Nat :=
  -- Other pairs do not count.
  tokens.countP (Token.isSymbol delimiter.closer)

/-- The first token counts with the others. -/
theorem openings_cons (token : Token) (tokens : List Token) :
    openings delimiter (token :: tokens) =
      [token].countP (Token.isSymbol delimiter.opener) + openings delimiter tokens := by
  rw [openings, openings, ← List.countP_append, List.singleton_append]

/-- The first token counts with the others. -/
theorem closings_cons (token : Token) (tokens : List Token) :
    closings delimiter (token :: tokens) =
      [token].countP (Token.isSymbol delimiter.closer) + closings delimiter tokens := by
  rw [closings, closings, ← List.countP_append, List.singleton_append]

/-- A token either closes the last open part, or the depth stays above zero and moves along. -/
theorem closes_or_moves (delimiter : Delimiter) (depth : Nat) (token : Token) :
    depth = 0 ∧ token = .symbol delimiter.closer ∨
      ∃ next, depth + [token].countP (Token.isSymbol delimiter.opener) =
        next + [token].countP (Token.isSymbol delimiter.closer) := by
  by_cases closes : token.isSymbol delimiter.closer = true
  · cases depth with
    -- With nothing open, the closer ends the walk.
    | zero => exact .inl ⟨rfl, Token.isSymbol_iff.mp closes⟩
    | succ depth =>
      -- Otherwise it takes one from the depth, and it is no opener.
      have opens : token.isSymbol delimiter.opener = false := by
        by_contra opens
        rw [Token.isSymbol_closer_of_opener (by simpa using opens)] at closes
        simp at closes
      exact .inr ⟨depth, by simp [opens, closes]⟩
  · exact .inr ⟨_, by simp only [List.countP_singleton, closes]; rfl⟩

/-- The last open part is closed by the closer. -/
theorem closerFrom_closer (delimiter : Delimiter) (rest : List Token) :
    closerFrom delimiter 1 (.symbol delimiter.closer :: rest) = some 0 := by
  simp [closerFrom, Token.isSymbol, delimiter.opener_ne_closer.symm]

/-- Up to the token on which a walk ends, as much is closed as was open and is opened. -/
theorem level_of_closerFrom {depth offset : Nat} {tokens : List Token}
    (found : closerFrom delimiter (depth + 1) tokens = some offset) :
    depth + 1 + openings delimiter (tokens.take (offset + 1)) =
      closings delimiter (tokens.take (offset + 1)) := by
  induction tokens generalizing depth offset with
  | nil => simp [closerFrom] at found
  | cons token rest ih =>
    rcases closes_or_moves delimiter depth token with ⟨rfl, rfl⟩ | ⟨next, moves⟩
    · -- The token that ends the walk closes the last open part.
      rw [Nat.zero_add, closerFrom_closer] at found
      obtain rfl := Option.some.inj found
      simp [openings, closings, Token.isSymbol, delimiter.opener_ne_closer.symm]
    · -- Any other token moves the depth as it moves the counts.
      rw [closerFrom_cons rest moves] at found
      obtain ⟨later, walked, rfl⟩ := Option.map_eq_some_iff.mp found
      have level := ih walked
      rw [List.take_succ_cons, openings_cons, closings_cons]
      omega

/-- Before a walk ends, more is open than is closed. -/
theorem open_of_lt_closerFrom {depth index : Nat} {tokens : List Token}
    (within : index < tokens.length)
    (before : ∀ offset, closerFrom delimiter (depth + 1) tokens = some offset → index < offset) :
    closings delimiter (tokens.take (index + 1)) <
      depth + 1 + openings delimiter (tokens.take (index + 1)) := by
  induction tokens generalizing depth index with
  | nil => simp at within
  | cons token rest ih =>
    rcases closes_or_moves delimiter depth token with ⟨rfl, rfl⟩ | ⟨next, moves⟩
    · -- The walk would end here, before the index.
      have ended := before 0 (closerFrom_closer delimiter rest)
      omega
    · -- The depth and the counts move alike, so what is open behind the token was open before.
      rw [closerFrom_cons rest moves] at before
      rw [List.take_succ_cons, openings_cons, closings_cons]
      cases index with
      | zero =>
        simp only [List.take_zero, openings, closings, List.countP_nil]
        omega
      | succ index =>
        have further := ih (by simpa using within) fun offset found => by
          have later := before (offset + 1) (by rw [found]; rfl)
          omega
        omega

/-- From an index to another one a pair of delimiters is closed as often as it is opened. -/
structure IsLevel (delimiter : Delimiter) (tokens : List Token) (first last : Nat) : Prop where
  ordered : first ≤ last
  inside : last < tokens.length
  level : openings delimiter (tokens.extract first (last + 1)) =
    closings delimiter (tokens.extract first (last + 1))

/-- Behind the opener that it starts with, a level part closes one part more than it opens. -/
theorem isLevel_iff {tokens : List Token} {start stop : Nat}
    (opened : tokens[start]? = some (.symbol delimiter.opener)) :
    IsLevel delimiter tokens start stop ↔
      ∃ offset < (tokens.drop (start + 1)).length, stop = start + 1 + offset ∧
        1 + openings delimiter ((tokens.drop (start + 1)).take (offset + 1)) =
          closings delimiter ((tokens.drop (start + 1)).take (offset + 1)) := by
  have ahead := drop_eq_cons_of_getElem? opened
  have extract (count : Nat) : tokens.extract start (start + count + 1) =
      .symbol delimiter.opener :: (tokens.drop (start + 1)).take count := by
    rw [List.extract_eq_take_drop, ahead, Nat.add_assoc, Nat.add_sub_cancel_left,
      List.take_succ_cons]
  -- The opener in front is one opening and no closing.
  have opens : [Token.symbol delimiter.opener].countP (Token.isSymbol delimiter.opener) = 1 := by
    simp [Token.isSymbol]
  have apart : [Token.symbol delimiter.opener].countP (Token.isSymbol delimiter.closer) = 0 := by
    simp [Token.isSymbol, delimiter.opener_ne_closer]
  constructor
  · rintro ⟨ordered, within, level⟩
    obtain ⟨count, rfl⟩ := Nat.exists_eq_add_of_le ordered
    rw [extract, openings_cons, closings_cons, opens, apart, Nat.zero_add] at level
    -- The opener alone is not level.
    cases count with
    | zero => simp [openings, closings] at level
    | succ offset => exact ⟨offset, by rw [List.length_drop]; omega, by omega, level⟩
  · rintro ⟨offset, within, rfl, level⟩
    rw [List.length_drop] at within
    refine ⟨by omega, by omega, ?_⟩
    rw [Nat.add_right_comm start 1 offset, Nat.add_assoc start, extract, openings_cons,
      closings_cons, opens, apart, Nat.zero_add, level]

/-- A walk from an opener ends on the first token up to which as much is closed as opened. -/
theorem closerOffset?_level {tokens : List Token} {start : Nat}
    (opened : tokens[start]? = some (.symbol delimiter.opener)) :
    (∀ offset, closerOffset? delimiter (tokens.drop start) = some offset →
      IsLeast {stop | IsLevel delimiter tokens start stop} (start + offset)) ∧
    (closerOffset? delimiter (tokens.drop start) = none →
      ∀ stop, ¬IsLevel delimiter tokens start stop) := by
  have ahead := drop_eq_cons_of_getElem? opened
  -- Behind the opener one part is open.
  have walk : closerOffset? delimiter (tokens.drop start) =
      (closerFrom delimiter (0 + 1) (tokens.drop (start + 1))).map (· + 1) := by
    simp [closerOffset?, ahead, closerFrom, Token.isSymbol]
  rw [walk]
  constructor
  · intro offset found
    obtain ⟨later, walked, rfl⟩ := Option.map_eq_some_iff.mp found
    have within := (List.getElem?_eq_some_iff.mp (getElem?_of_closerFrom walked)).1
    have level := level_of_closerFrom walked
    constructor
    · exact (isLevel_iff opened).mpr ⟨later, within, by omega, by omega⟩
    · intro stop other
      obtain ⟨early, _, rfl, same⟩ := (isLevel_iff opened).mp other
      by_contra sooner
      have before : ∀ offset, closerFrom delimiter (0 + 1) (tokens.drop (start + 1)) =
          some offset → early < offset := by
        intro offset again
        obtain rfl := Option.some.inj (walked.symm.trans again)
        omega
      have unfinished := open_of_lt_closerFrom (by omega) before
      omega
  · intro missing stop other
    rw [Option.map_eq_none_iff] at missing
    obtain ⟨early, within, rfl, same⟩ := (isLevel_iff opened).mp other
    have before : ∀ offset, closerFrom delimiter (0 + 1) (tokens.drop (start + 1)) =
        some offset → early < offset := by
      simp [missing]
    have unfinished := open_of_lt_closerFrom within before
    omega

/-- With fewer open parts a walk ends sooner. -/
theorem closerFrom_shallower {depth lower offset : Nat} {tokens : List Token}
    (less : lower < depth) (found : closerFrom delimiter (depth + 1) tokens = some offset) :
    ∃ sooner < offset, closerFrom delimiter (lower + 1) tokens = some sooner := by
  -- Each token moves both depths alike, up to the one that closes all of the shallower walk.
  induction tokens generalizing depth lower offset with
  | nil => simp [closerFrom] at found
  | cons token rest ih =>
    have deeper : ∀ next, depth + [token].countP (Token.isSymbol delimiter.opener) =
        next + [token].countP (Token.isSymbol delimiter.closer) →
        ∃ later, closerFrom delimiter (next + 1) rest = some later ∧ later + 1 = offset := by
      intro next moves
      rw [closerFrom_cons rest moves] at found
      exact Option.map_eq_some_iff.mp found
    rcases closes_or_moves delimiter lower token with ⟨rfl, rfl⟩ | ⟨next, moves⟩
    · obtain ⟨later, -, rfl⟩ := deeper (depth - 1) (by
        simp [Token.isSymbol, delimiter.opener_ne_closer.symm]
        omega)
      exact ⟨0, Nat.succ_pos later, by rw [Nat.zero_add, closerFrom_closer]⟩
    · obtain ⟨later, walked, rfl⟩ := deeper (next + (depth - lower)) (by omega)
      have less : next < next + (depth - lower) := by omega
      obtain ⟨sooner, earlier, ended⟩ := ih less walked
      exact ⟨sooner + 1, by omega, by rw [closerFrom_cons rest moves, ended]; rfl⟩

/-- A part that opens inside an open one is closed before it. -/
theorem closerFrom_nested {depth offset inner : Nat} {tokens : List Token}
    (found : closerFrom delimiter (depth + 1) tokens = some offset)
    (opened : tokens[inner]? = some (.symbol delimiter.opener)) (before : inner < offset) :
    ∃ length, closerOffset? delimiter (tokens.drop inner) = some length ∧
      inner + length < offset := by
  induction tokens generalizing depth offset inner with
  | nil => simp at opened
  | cons token rest ih =>
    rcases closes_or_moves delimiter depth token with ⟨rfl, rfl⟩ | ⟨next, moves⟩
    · rw [Nat.zero_add, closerFrom_closer] at found
      obtain rfl := Option.some.inj found
      omega
    · rw [closerFrom_cons rest moves] at found
      obtain ⟨later, walked, rfl⟩ := Option.map_eq_some_iff.mp found
      cases inner with
      | zero =>
        -- The part that opens here has only itself to close, and the walk has more.
        obtain rfl : token = .symbol delimiter.opener := by simpa using opened
        have deeper : 0 < next := by
          simp [Token.isSymbol, delimiter.opener_ne_closer] at moves
          omega
        obtain ⟨sooner, earlier, ended⟩ := closerFrom_shallower deeper walked
        refine ⟨sooner + 1, ?_, by omega⟩
        simp only [closerOffset?, List.drop_zero, closerFrom, Token.isSymbol, beq_self_eq_true,
          if_true, ended]
        rfl
      | succ inner =>
        obtain ⟨length, closed, earlier⟩ := ih walked (by simpa using opened) (by omega)
        exact ⟨length, by simpa using closed, by omega⟩

/-- Parts of one pair of delimiters nest: what opens inside a closed part is closed inside it. -/
theorem closerAt?_nested {tokens : List Token} {outer close inner : Nat}
    (opened : tokens[outer]? = some (.symbol delimiter.opener))
    (closed : closerAt? tokens outer = some close)
    (opens : tokens[inner]? = some (.symbol delimiter.opener)) (after : outer < inner)
    (before : inner < close) : ∃ stop < close, closerAt? tokens inner = some stop := by
  -- Behind the outer opener the walk is one that has a single part open.
  have ahead := drop_eq_cons_of_getElem? opened
  simp only [closerAt?, openedBy?_drop opened] at closed
  obtain ⟨offset, walked, rfl⟩ := Option.map_eq_some_iff.mp closed
  have walk : closerOffset? delimiter (tokens.drop outer) =
      (closerFrom delimiter (0 + 1) (tokens.drop (outer + 1))).map (· + 1) := by
    simp [closerOffset?, ahead, closerFrom, Token.isSymbol]
  rw [walk] at walked
  obtain ⟨later, found, rfl⟩ := Option.map_eq_some_iff.mp walked
  have place : outer + 1 + (inner - (outer + 1)) = inner := by omega
  have inside : (tokens.drop (outer + 1))[inner - (outer + 1)]? =
      some (.symbol delimiter.opener) := by
    rw [List.getElem?_drop, place, opens]
  obtain ⟨length, ended, earlier⟩ := closerFrom_nested found inside (by omega)
  rw [List.drop_drop, place] at ended
  refine ⟨length + inner, by omega, ?_⟩
  simp only [closerAt?, openedBy?_drop opens, ended]
  rfl

end Level

section Steps

/-- A cursor at an index stands on the token there. -/
theorem Cursor.current?_at (tokens : List Token) (index : Nat) :
    Cursor.current? ⟨tokens, index⟩ = tokens[index]? := by
  -- An index that is no place of the list has no token on either side.
  by_cases inside : index < tokens.length
  · simp [Cursor.current?, Cursor.index?, inside]
  · simp [Cursor.current?, Cursor.index?, inside]

/-- A cursor has the index of its position if a token stands there. -/
theorem Cursor.index?_eq_some_iff {cursor : Cursor} {index : Nat} :
    cursor.index? = some index ↔ index < cursor.tokens.length ∧ cursor.position = index := by
  -- A position is an index if it is neither before the start nor past the end.
  simp only [Cursor.index?, Option.ite_none_right_eq_some, Bool.and_eq_true, decide_eq_true_eq,
    Option.some.injEq]
  omega

/-- A cursor on a token is at the index of the token. -/
theorem Cursor.exists_at {cursor : Cursor} {token : Token} (here : cursor.current? = some token) :
    ∃ (tokens : List Token) (index : Nat), cursor = ⟨tokens, index⟩ ∧
      tokens[index]? = some token := by
  -- A cursor that stands on a token has an index as its position.
  obtain ⟨index, valid, present⟩ := Option.bind_eq_some_iff.mp here
  obtain ⟨-, position⟩ := Cursor.index?_eq_some_iff.mp valid
  exact ⟨cursor.tokens, index, by rw [← position], present⟩

/-- A cursor on a token moves to the next index. -/
theorem Cursor.next_at {tokens : List Token} {index : Nat} (inside : index < tokens.length) :
    Cursor.next ⟨tokens, index⟩ = ⟨tokens, (index + 1 : Nat)⟩ := by
  simp [Cursor.next, inside]

/-- A cursor on a token comes closer to the end by moving on. -/
theorem Cursor.next_lt {cursor : Cursor} {token : Token} (here : cursor.current? = some token) :
    (cursor.next.tokens.length - cursor.next.position).toNat <
      (cursor.tokens.length - cursor.position).toNat := by
  -- The next position is closer to the end, since the cursor is still in the list.
  obtain ⟨tokens, index, rfl, present⟩ := Cursor.exists_at here
  obtain ⟨inside, -⟩ := List.getElem?_eq_some_iff.mp present
  rw [Cursor.next_at inside]
  simp only
  omega

/-- What a walk in single steps leaves behind. -/
structure Passage where
  /-- Where the walk ended. -/
  cursor : Cursor
  /-- What the collector holds, if there is one. -/
  collected? : Option (List Token)
  /-- The cause of failure, if the walk found no closing delimiter. -/
  fault? : Option Fault

/-- Walks on by one token at a time with some parts open, and hands each one to the collector. -/
def Cursor.passFrom (delimiter : Delimiter) (start depth : Nat) (collected? : Option (List Token))
    (cursor : Cursor) : Option Passage :=
  -- There is no passage where one would be taken from a depth of zero.
  match _here : cursor.current? with
  | none => some ⟨cursor, collected?, some (.unclosed start delimiter)⟩
  | some token =>
    let collected? := collected?.map (· ++ [token])
    if token.isSymbol delimiter.opener then
      passFrom delimiter start (depth + 1) collected? cursor.next
    else if token.isSymbol delimiter.closer then
      match depth with
      | 0 => none
      | 1 => some ⟨cursor, collected?, none⟩
      | depth + 2 => passFrom delimiter start (depth + 1) collected? cursor.next
    else passFrom delimiter start depth collected? cursor.next
termination_by (cursor.tokens.length - cursor.position).toNat
decreasing_by all_goals exact Cursor.next_lt _here

/-- Walks from an opening delimiter to the one that closes it by one token at a time. -/
def Cursor.pass (cursor : Cursor) (collector? : Option (List Token)) : Option Passage :=
  -- Without an opening delimiter the collector stays as it is.
  match cursor.index? with
  | none => some ⟨cursor, collector?, some (.notAnOpener cursor.tokens.length)⟩
  | some start =>
    match cursor.current? with
    | some (.symbol char) =>
      match Delimiter.ofOpener? char with
      | some delimiter => cursor.passFrom delimiter start 0 collector?
      | none => some ⟨cursor, collector?, some (.notAnOpener start)⟩
    | _ => some ⟨cursor, collector?, some (.notAnOpener start)⟩

/-- A walk that has left the tokens has failed. -/
theorem Cursor.passFrom_none {delimiter : Delimiter} {start depth : Nat}
    {collected? : Option (List Token)} {cursor : Cursor} (gone : cursor.current? = none) :
    cursor.passFrom delimiter start depth collected? =
      some ⟨cursor, collected?, some (.unclosed start delimiter)⟩ := by
  -- Without a token the delimiter is left unclosed.
  rw [Cursor.passFrom]
  split
  · rfl
  · rename_i token here
    simp [gone] at here

/-- A walk on a token hands it to the collector, and goes on unless it closes the last part. -/
theorem Cursor.passFrom_some {delimiter : Delimiter} {start depth : Nat}
    {collected? : Option (List Token)} {cursor : Cursor} {token : Token}
    (here : cursor.current? = some token) :
    cursor.passFrom delimiter start depth collected? =
      if token.isSymbol delimiter.opener then
        cursor.next.passFrom delimiter start (depth + 1) (collected?.map (· ++ [token]))
      else if token.isSymbol delimiter.closer then
        match depth with
        | 0 => none
        | 1 => some ⟨cursor, collected?.map (· ++ [token]), none⟩
        | depth + 2 =>
          cursor.next.passFrom delimiter start (depth + 1) (collected?.map (· ++ [token]))
      else cursor.next.passFrom delimiter start depth (collected?.map (· ++ [token])) := by
  -- With a token the walk takes the step that the token calls for.
  rw [Cursor.passFrom]
  split
  · rename_i gone
    simp [here] at gone
  · rename_i other again
    obtain rfl := Option.some.inj (here.symm.trans again)
    rfl

/-- What a walk leaves behind when it hands the tokens that it meets to a collector. -/
def Walk.passage (walk : Walk) (collector? : Option (List Token)) : Passage :=
  -- The tokens come behind those that the collector held before.
  ⟨walk.cursor, collector?.map (· ++ walk.visited), walk.fault?⟩

/-- A walk from an index that ends at an offset, or not at all. -/
def walkEnd (delimiter : Delimiter) (start : Nat) (tokens : List Token) (index : Nat) :
    Option Nat → Walk
  -- A walk that does not end meets all tokens and comes to rest behind them.
  | some offset => ⟨⟨tokens, (index + offset : Nat)⟩, (tokens.drop index).take (offset + 1), none⟩
  | none => ⟨⟨tokens, tokens.length⟩, tokens.drop index, some (.unclosed start delimiter)⟩

/-- A walk that first meets one token leaves the same behind as one from the next index. -/
theorem passage_walkEnd_succ {delimiter : Delimiter} {start : Nat} {tokens : List Token}
    {index : Nat} {token : Token} {collected? : Option (List Token)}
    (ahead : tokens.drop index = token :: tokens.drop (index + 1)) (offset? : Option Nat) :
    (walkEnd delimiter start tokens (index + 1) offset?).passage (collected?.map (· ++ [token])) =
      (walkEnd delimiter start tokens index (offset?.map (· + 1))).passage collected? := by
  -- One step further on, the token is collected already and the offset is one less.
  cases offset? with
  | none => simp [walkEnd, Walk.passage, ahead, Function.comp_def]
  | some offset =>
    simp [walkEnd, Walk.passage, ahead, Function.comp_def, Nat.add_assoc, Nat.add_comm 1 offset]

/-- With a part open, a walk in single steps ends where that part is closed. -/
theorem Cursor.passFrom_eq (delimiter : Delimiter) (start depth : Nat) {tokens : List Token}
    {index : Nat} (inside : index ≤ tokens.length) (collected? : Option (List Token)) :
    Cursor.passFrom delimiter start (depth + 1) collected? ⟨tokens, index⟩ =
      some ((walkEnd delimiter start tokens index
        (closerFrom delimiter (depth + 1) (tokens.drop index))).passage collected?) := by
  -- The induction is on the number of tokens ahead.
  induction left : tokens.length - index generalizing index depth collected? with
  | zero =>
    obtain rfl : index = tokens.length := by omega
    rw [Cursor.passFrom_none (by simp [Cursor.current?_at])]
    simp [closerFrom, walkEnd, Walk.passage]
  | succ count ih =>
    have within : index < tokens.length := by omega
    have ahead := List.drop_eq_getElem_cons within
    have further (depth : Nat) := ih depth (by omega : index + 1 ≤ tokens.length)
      (collected?.map (· ++ [tokens[index]])) (by omega)
    simp only [passage_walkEnd_succ ahead] at further
    rw [Cursor.passFrom_some (by rw [Cursor.current?_at, List.getElem?_eq_getElem within]),
      Cursor.next_at within, ahead, closerFrom]
    by_cases opens : tokens[index].isSymbol delimiter.opener = true
    · rw [if_pos opens, if_pos opens, further]
    · rw [if_neg opens, if_neg opens]
      by_cases closes : tokens[index].isSymbol delimiter.closer = true
      · rw [if_pos closes, if_pos closes]
        cases depth with
        | zero =>
          rw [if_pos (by omega), walkEnd, ahead]
          rfl
        | succ depth =>
          rw [if_neg (by omega)]
          exact further depth
      · rw [if_neg closes, if_neg closes, further]

/-- From an opener a walk ends at the offset of its closer. -/
theorem Cursor.walkToCloser_opened {tokens : List Token} {index : Nat} {delimiter : Delimiter}
    (opened : tokens[index]? = some (.symbol delimiter.opener)) :
    Cursor.walkToCloser ⟨tokens, index⟩ =
      walkEnd delimiter index tokens index (closerOffset? delimiter (tokens.drop index)) := by
  -- The cursor stands on the opener, so the walk is that of its delimiter.
  have valid : Cursor.index? ⟨tokens, index⟩ = some index :=
    Cursor.index?_eq_some_iff.mpr ⟨(List.getElem?_eq_some_iff.mp opened).1, rfl⟩
  simp only [Cursor.walkToCloser, valid, openedBy?_drop opened]
  cases closerOffset? delimiter (tokens.drop index) <;> rfl

/-- A walk that starts on no opener fails where it stands. -/
theorem Cursor.walkToCloser_unopened {cursor : Cursor}
    (unopened : ∀ delimiter : Delimiter, cursor.current? ≠ some (.symbol delimiter.opener)) :
    cursor.walkToCloser =
      ⟨cursor, [], some (.notAnOpener (cursor.index?.getD cursor.tokens.length))⟩ := by
  rw [Cursor.walkToCloser]
  cases valid : cursor.index? with
  | none => rfl
  | some index =>
    -- The cursor stands on a token that opens nothing, and the walk looks at that token first.
    have nothing : openedBy? (cursor.tokens.drop index) = none := by
      by_contra opens
      obtain ⟨delimiter, opened⟩ := Option.ne_none_iff_exists'.mp opens
      obtain ⟨rest, ahead⟩ := openedBy?_eq_some_iff.mp opened
      have here : (cursor.tokens.drop index)[0]? = some (.symbol delimiter.opener) := by
        simp [ahead]
      apply unopened delimiter
      rwa [Cursor.current?, valid, Option.bind_some, ← Nat.add_zero index, ← List.getElem?_drop]
    simp only [nothing, Option.getD_some]

/-- A walk in single steps leaves the same behind as the walk, and fills any collector. -/
theorem Cursor.pass_eq (cursor : Cursor) (collector? : Option (List Token)) :
    cursor.pass collector? = some (cursor.walkToCloser.passage collector?) := by
  by_cases opens : ∃ delimiter : Delimiter, cursor.current? = some (.symbol delimiter.opener)
  · obtain ⟨delimiter, current⟩ := opens
    obtain ⟨tokens, index, rfl, opened⟩ := Cursor.exists_at current
    obtain ⟨inside, -⟩ := List.getElem?_eq_some_iff.mp opened
    have ahead := drop_eq_cons_of_getElem? opened
    have valid : Cursor.index? ⟨tokens, index⟩ = some index :=
      Cursor.index?_eq_some_iff.mpr ⟨inside, rfl⟩
    have own : (Token.symbol delimiter.opener).isSymbol delimiter.opener = true :=
      Token.isSymbol_iff.mpr rfl
    have pair : Delimiter.ofOpener? delimiter.opener = some delimiter :=
      Delimiter.ofOpener?_eq_some_iff.mpr rfl
    -- The opener raises the depth to one, and from there on a part is open.
    have first : Cursor.pass ⟨tokens, index⟩ collector? =
        Cursor.passFrom delimiter index (0 + 1)
          (collector?.map (· ++ [.symbol delimiter.opener])) ⟨tokens, (index + 1 : Nat)⟩ := by
      simp only [Cursor.pass, valid, current, pair]
      rw [Cursor.passFrom_some current, if_pos own, Cursor.next_at inside]
    rw [first, Cursor.passFrom_eq _ _ _ (by omega), passage_walkEnd_succ ahead,
      Cursor.walkToCloser_opened opened, closerOffset?, ahead, closerFrom, if_pos own]
  · have unopened := not_exists.mp opens
    rw [Cursor.walkToCloser_unopened unopened, Cursor.pass]
    cases valid : cursor.index? with
    | none => simp [Walk.passage]
    | some index =>
      simp only
      split
      · rename_i char current
        have other : Delimiter.ofOpener? char = none := by
          by_contra opening
          obtain ⟨delimiter, opened⟩ := Option.ne_none_iff_exists'.mp opening
          rw [Delimiter.ofOpener?_eq_some_iff.mp opened] at current
          exact unopened delimiter current
        simp [other, Walk.passage]
      · simp [Walk.passage]

end Steps

/--
A walk from an opening delimiter ends on the first token up to which it is closed as often as it is
opened, and on the way it meets exactly the tokens between.

If there is no such token it meets everything and rests behind the last one, and without an opening
delimiter it stays where it is.
In single steps, where a depth below zero leaves nothing behind, it ends in the same way, with a
collector and without one.
-/
theorem walk_ends_on_match (cursor : Cursor) :
    (∀ (start : Nat) (delimiter : Delimiter), cursor.index? = some start →
      cursor.tokens[start]? = some (.symbol delimiter.opener) →
      (cursor.walkToCloser.fault? = none ↔
        ∃ stop, IsLevel delimiter cursor.tokens start stop) ∧
      (∀ stop, IsLeast {stop | IsLevel delimiter cursor.tokens start stop} stop →
        cursor.tokens[stop]? = some (.symbol delimiter.closer) ∧
        cursor.walkToCloser =
          ⟨{ cursor with position := stop }, cursor.tokens.extract start (stop + 1), none⟩) ∧
      ((∀ stop, ¬IsLevel delimiter cursor.tokens start stop) →
        cursor.walkToCloser = ⟨{ cursor with position := cursor.tokens.length },
          cursor.tokens.drop start, some (.unclosed start delimiter)⟩)) ∧
    ((∀ delimiter : Delimiter, cursor.current? ≠ some (.symbol delimiter.opener)) →
      cursor.walkToCloser =
        ⟨cursor, [], some (.notAnOpener (cursor.index?.getD cursor.tokens.length))⟩) ∧
    ∀ collector?, cursor.pass collector? = some (cursor.walkToCloser.passage collector?) := by
  refine ⟨?_, Cursor.walkToCloser_unopened, cursor.pass_eq⟩
  intro start delimiter valid opened
  obtain ⟨tokens, position⟩ := cursor
  obtain ⟨-, rfl⟩ := Cursor.index?_eq_some_iff.mp valid
  simp only at opened ⊢
  -- The walk ends at the least level place if there is one, and at none otherwise.
  obtain ⟨found, missing⟩ := closerOffset?_level opened
  rw [Cursor.walkToCloser_opened opened]
  cases closed : closerOffset? delimiter (tokens.drop start) with
  | none =>
    have never := missing closed
    exact ⟨by simp [walkEnd, never], fun stop least => absurd least.1 (never stop), fun _ => rfl⟩
  | some offset =>
    have least := found offset closed
    refine ⟨by simpa [walkEnd] using ⟨_, least.1⟩, fun stop other => ?_, fun never => ?_⟩
    · obtain rfl := other.unique least
      have closes := getElem?_of_closerFrom closed
      rw [List.getElem?_drop] at closes
      refine ⟨closes, ?_⟩
      rw [walkEnd, List.extract_eq_take_drop, Nat.add_assoc, Nat.add_sub_cancel_left]
    · exact absurd least.1 (never _)

/-- Brackets that cross a pair of parentheses have no part in where it ends. -/
theorem walk_ends_on_match_crossed :
    let tokens : List Token :=
      [.symbol '[', .symbol '(', .symbol '[', .symbol '(', .symbol ']', .symbol ')', .symbol ')',
       .symbol ']']
    IsLeast {stop | IsLevel .round tokens 1 stop} 6 ∧
      Cursor.walkToCloser ⟨tokens, 1⟩ = ⟨⟨tokens, 6⟩, tokens.extract 1 7, none⟩ := by
  intro tokens
  have least : IsLeast {stop | IsLevel .round tokens 1 stop} 6 := by
    refine ⟨⟨by decide, by decide, by decide⟩, fun stop level => ?_⟩
    by_contra earlier
    -- Square brackets do not count, so every earlier place is checked for the round ones alone.
    have ordered := level.ordered
    interval_cases stop <;> exact absurd level.level (by decide)
  obtain ⟨-, ends, -⟩ := (walk_ends_on_match ⟨tokens, 1⟩).1 1 .round (by decide) (by decide)
  exact ⟨least, (ends 6 least).2⟩

end PhpOutline
