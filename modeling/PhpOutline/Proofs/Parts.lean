import Mathlib
import PhpOutline.Proofs.Reach

/-!
Reading the parts of a method piece by piece.

What was read in front of a place decides how the tokens behind it are read.
Braces that are balanced are passed over by a walk to a closing brace.
-/

namespace PhpOutline

/-- Tokens in which a pair of delimiters never closes more than it opens and leaves nothing open. -/
structure Balanced (delimiter : Delimiter) (tokens : List Token) : Prop where
  /-- No part of the tokens from the front on closes more than it opens. -/
  bounded : ∀ part ∈ tokens.inits,
    part.countP (Token.isSymbol delimiter.closer) ≤ part.countP (Token.isSymbol delimiter.opener)
  /-- In the end everything is closed. -/
  level : tokens.countP (Token.isSymbol delimiter.closer) =
    tokens.countP (Token.isSymbol delimiter.opener)

/-- The symbol that opens a pair does not close it. -/
theorem Token.isSymbol_closer_of_opener {delimiter : Delimiter} {token : Token}
    (opens : token.isSymbol delimiter.opener = true) : token.isSymbol delimiter.closer = false := by
  obtain rfl := Token.isSymbol_iff.mp opens
  simpa [Token.isSymbol] using delimiter.opener_ne_closer

/-- A walk passes over a token that does not close all that is open, and its depth moves along. -/
theorem closerFrom_cons {delimiter : Delimiter} {depth next : Nat} {token : Token}
    (rest : List Token)
    (moves : depth + [token].countP (Token.isSymbol delimiter.opener) =
      next + [token].countP (Token.isSymbol delimiter.closer)) :
    closerFrom delimiter (depth + 1) (token :: rest) =
      (closerFrom delimiter (next + 1) rest).map (· + 1) := by
  rw [closerFrom]
  by_cases opens : token.isSymbol delimiter.opener = true
  · have apart := Token.isSymbol_closer_of_opener opens
    obtain rfl : depth + 1 = next := by simpa [opens, apart] using moves
    rw [if_pos opens]
  · rw [if_neg opens]
    by_cases closes : token.isSymbol delimiter.closer = true
    · -- One part is closed, and at least one more was open.
      obtain rfl : depth = next + 1 := by simpa [opens, closes] using moves
      rw [if_pos closes, if_neg (by omega), Nat.add_sub_cancel]
    · obtain rfl : depth = next := by simpa [opens, closes] using moves
      rw [if_neg closes]

/-- A walk passes over tokens that never close all that is open, and its depth moves along. -/
theorem closerFrom_over {delimiter : Delimiter} {depth : Nat} {tokens : List Token}
    (rest : List Token)
    (stays : ∀ part ∈ tokens.inits, part.countP (Token.isSymbol delimiter.closer) ≤
      depth + part.countP (Token.isSymbol delimiter.opener)) :
    closerFrom delimiter (depth + 1) (tokens ++ rest) =
      (closerFrom delimiter (depth + 1 + tokens.countP (Token.isSymbol delimiter.opener) -
        tokens.countP (Token.isSymbol delimiter.closer)) rest).map (· + tokens.length) := by
  -- The induction is on the tokens, and the depth changes with each of them.
  induction tokens generalizing depth with
  | nil => simp
  | cons token tokens ih =>
    have first := stays [token] (by simp)
    obtain ⟨next, moves⟩ : ∃ next, depth + [token].countP (Token.isSymbol delimiter.opener) =
        next + [token].countP (Token.isSymbol delimiter.closer) :=
      ⟨_, (Nat.sub_add_cancel first).symm⟩
    have split (counts : Token → Bool) (part : List Token) :
        (token :: part).countP counts = [token].countP counts + part.countP counts := by
      rw [← List.countP_append, List.singleton_append]
    have opened := split (Token.isSymbol delimiter.opener)
    have closed := split (Token.isSymbol delimiter.closer)
    have later : ∀ part ∈ tokens.inits, part.countP (Token.isSymbol delimiter.closer) ≤
        next + part.countP (Token.isSymbol delimiter.opener) := by
      intro part listed
      have bound := stays (token :: part) (by simp [listed])
      rw [opened, closed] at bound
      omega
    have depths : depth + 1 + (token :: tokens).countP (Token.isSymbol delimiter.opener) -
        (token :: tokens).countP (Token.isSymbol delimiter.closer) =
        next + 1 + tokens.countP (Token.isSymbol delimiter.opener) -
          tokens.countP (Token.isSymbol delimiter.closer) := by
      rw [opened tokens, closed tokens]
      omega
    rw [List.cons_append, closerFrom_cons _ moves, ih later, Option.map_map, depths]
    rfl

/-- Balanced tokens between an opener and its closer are passed over whole. -/
theorem closerOffset?_balanced {delimiter : Delimiter} {tokens : List Token}
    (balanced : Balanced delimiter tokens) (rest : List Token) :
    closerOffset? delimiter
        (.symbol delimiter.opener :: (tokens ++ .symbol delimiter.closer :: rest)) =
      some (tokens.length + 1) := by
  -- A balanced part never takes back the opener in front of it, and at its end one part is open.
  have stays : ∀ part ∈ tokens.inits, part.countP (Token.isSymbol delimiter.closer) ≤
      0 + part.countP (Token.isSymbol delimiter.opener) := by
    intro part listed
    rw [Nat.zero_add]
    exact balanced.bounded part listed
  have passed := closerFrom_over (.symbol delimiter.closer :: rest) stays
  have level : 0 + 1 + tokens.countP (Token.isSymbol delimiter.opener) -
      tokens.countP (Token.isSymbol delimiter.closer) = 1 := by
    rw [balanced.level]
    omega
  rw [level] at passed
  simp only [closerOffset?, closerFrom, Token.isSymbol, beq_self_eq_true, if_true, passed]
  simp [delimiter.opener_ne_closer.symm]

/-- A walk that does not end goes on with what follows, with something still open. -/
theorem closerFrom_unclosed {delimiter : Delimiter} {depth : Nat} {tokens : List Token}
    (unclosed : closerFrom delimiter (depth + 1) tokens = none) :
    ∃ reached, ∀ rest, closerFrom delimiter (depth + 1) (tokens ++ rest) =
      (closerFrom delimiter (reached + 1) rest).map (· + tokens.length) := by
  induction tokens generalizing depth with
  | nil => exact ⟨depth, fun rest => by simp⟩
  | cons token tokens ih =>
    -- Whatever the token does to the depth, the walk goes on over the others.
    have onward : ∀ next, closerFrom delimiter (next + 1) tokens = none →
        (∀ rest, closerFrom delimiter (depth + 1) (token :: (tokens ++ rest)) =
          (closerFrom delimiter (next + 1) (tokens ++ rest)).map (· + 1)) →
        ∃ reached, ∀ rest, closerFrom delimiter (depth + 1) (token :: tokens ++ rest) =
          (closerFrom delimiter (reached + 1) rest).map (· + (token :: tokens).length) := by
      intro next still steps
      obtain ⟨reached, walked⟩ := ih still
      refine ⟨reached, fun rest => ?_⟩
      rw [List.cons_append, steps, walked, Option.map_map]
      rfl
    rw [closerFrom] at unclosed
    by_cases opens : token.isSymbol delimiter.opener = true
    · rw [if_pos opens, Option.map_eq_none_iff] at unclosed
      exact onward (depth + 1) unclosed fun rest => by rw [closerFrom, if_pos opens]
    · rw [if_neg opens] at unclosed
      by_cases closes : token.isSymbol delimiter.closer = true
      · rw [if_pos closes] at unclosed
        cases depth with
        | zero => simp at unclosed
        | succ depth =>
          rw [if_neg (by omega), Option.map_eq_none_iff] at unclosed
          exact onward depth unclosed fun rest => by
            rw [closerFrom, if_neg opens, if_pos closes, if_neg (by omega)]
            rfl
      · rw [if_neg closes, Option.map_eq_none_iff] at unclosed
        exact onward depth unclosed fun rest => by rw [closerFrom, if_neg opens, if_neg closes]

/-- A part that is closed is taken whole, whatever follows the tokens it stands in. -/
theorem readParts_part_append {parts : MethodParts} {token : Token} {tokens : List Token}
    {delimiter : Delimiter} {offset : Nat} (index : Nat)
    (opened : parts.opens? token = some delimiter)
    (closed : closerOffset? delimiter (token :: tokens) = some offset) (rest : List Token) :
    offset ≤ tokens.length ∧
      readParts parts index (token :: (tokens ++ rest)) =
        readParts (parts.add delimiter (textOf ((token :: tokens).take (offset + 1))))
          (index + offset + 1) (tokens.drop offset ++ rest) := by
  -- The closer lies in the front part, so what is cut at it is the same with the rest behind.
  have inside : offset < (token :: tokens).length :=
    (List.getElem?_eq_some_iff.mp (getElem?_of_closerFrom closed)).1
  rw [List.length_cons] at inside
  have further : closerOffset? delimiter (token :: (tokens ++ rest)) = some offset :=
    closerFrom_append closed rest
  have taken : (token :: (tokens ++ rest)).take (offset + 1) =
      (token :: tokens).take (offset + 1) := by
    rw [← List.cons_append, List.take_append_of_le_length (by rw [List.length_cons]; omega)]
  refine ⟨by omega, ?_⟩
  rw [readParts, opened]
  simp only [further, taken]
  rw [List.drop_append_of_le_length (by omega)]

/-- After the parts of some tokens have been read, those of the next ones are. -/
theorem readParts_append {parts found : MethodParts} {index : Nat} {tokens : List Token}
    (read : readParts parts index tokens = .ok found) (rest : List Token) :
    readParts parts index (tokens ++ rest) = readParts found (index + tokens.length) rest := by
  fun_induction readParts parts index tokens with
  | case1 parts index =>
    obtain rfl := Except.ok.inj read
    rfl
  -- A token that opens nothing is passed over in both lists.
  | case2 parts index token tokens unopened ih =>
    rw [List.cons_append, readParts, unopened, ih read, List.length_cons,
      show index + 1 + tokens.length = index + (tokens.length + 1) by omega]
  | case3 => cases read
  | case4 parts index token tokens delimiter opened offset closed ih =>
    -- A part that is closed in the front is read there, and the rest comes behind what is left of
    -- it.
    obtain ⟨inside, step⟩ := readParts_part_append index opened closed rest
    rw [List.cons_append, step, ih read, List.length_drop, List.length_cons,
      show index + offset + 1 + (tokens.length - offset) = index + (tokens.length + 1) by omega]

/-- A reading that fails goes on failing if what follows closes nothing that is open. -/
theorem readParts_append_error {parts : MethodParts} {index : Nat} {tokens rest : List Token}
    {fault : Fault} (failed : readParts parts index tokens = .error fault)
    (unclosed : ∀ delimiter, delimiter = .round ∨ delimiter = .curly → ∀ reached,
      closerFrom delimiter (reached + 1) rest = none) :
    readParts parts index (tokens ++ rest) = .error fault := by
  fun_induction readParts parts index tokens with
  | case1 => cases failed
  | case2 parts index token tokens unopened ih =>
    rw [List.cons_append, readParts, unopened]
    exact ih failed
  | case3 parts index token tokens delimiter opened open' =>
    -- The part that was never closed is not closed by the rest either.
    obtain ⟨rfl, paired⟩ := MethodParts.opens?_eq_some opened
    simp only [closerOffset?, closerFrom, Token.isSymbol, beq_self_eq_true, if_true,
      Option.map_eq_none_iff] at open'
    obtain ⟨reached, walked⟩ := closerFrom_unclosed open'
    rw [← failed, List.cons_append, readParts, opened]
    simp [closerOffset?, closerFrom, Token.isSymbol, walked, unclosed delimiter paired]
  | case4 parts index token tokens delimiter opened offset closed ih =>
    -- A part that is closed in the front is read there, and the failure comes later.
    rw [List.cons_append, (readParts_part_append index opened closed rest).2]
    exact ih failed

/-- What is read does not depend on the index at which the tokens stand. -/
theorem readParts_eq_ok_of_index {parts found : MethodParts} {index : Nat} {tokens : List Token}
    (read : readParts parts index tokens = .ok found) (place : Nat) :
    readParts parts place tokens = .ok found := by
  -- The index only says where a failure is, and there is none.
  fun_induction readParts parts index tokens generalizing place with
  | case1 parts index =>
    obtain rfl := Except.ok.inj read
    rw [readParts]
  | case2 parts index token tokens unopened ih =>
    rw [readParts, unopened]
    exact ih read (place + 1)
  | case3 => cases read
  | case4 parts index token tokens delimiter opened offset closed ih =>
    rw [readParts, opened]
    simp only [closed]
    exact ih read (place + offset + 1)

/-- A part opens only while it is missing. -/
theorem MethodParts.opens?_missing {parts : MethodParts} {token : Token} {delimiter : Delimiter}
    (opened : parts.opens? token = some delimiter) :
    delimiter = .round ∧ parts.parameters? = none ∨ delimiter = .curly ∧ parts.body? = none := by
  unfold MethodParts.opens? at opened
  split at opened
  · -- A parenthesis only opens the parameters while they are missing.
    rename_i seen
    simp only [Bool.and_eq_true, Option.isNone_iff_eq_none] at seen
    exact .inl ⟨(Option.some.inj opened).symm, seen.1⟩
  · split at opened
    · -- A brace only opens the body while it is missing.
      rename_i seen
      simp only [Bool.and_eq_true, Option.isNone_iff_eq_none] at seen
      exact .inr ⟨(Option.some.inj opened).symm, seen.1⟩
    · cases opened

/-- Parts that have been read are kept. -/
theorem readParts_kept {parts found : MethodParts} {index : Nat} {tokens : List Token}
    (read : readParts parts index tokens = .ok found) :
    (∀ text, parts.parameters? = some text → found.parameters? = some text) ∧
      ∀ text, parts.body? = some text → found.body? = some text := by
  fun_induction readParts parts index tokens with
  | case1 parts index =>
    obtain rfl := Except.ok.inj read
    exact ⟨fun _ => id, fun _ => id⟩
  | case2 parts index token tokens unopened ih => exact ih read
  | case3 => cases read
  | case4 parts index token tokens delimiter opened offset closed ih =>
    -- The part that is added was missing before, and the other one stays as it is.
    obtain ⟨parameters, body⟩ := ih read
    rcases MethodParts.opens?_missing opened with ⟨rfl, missing⟩ | ⟨rfl, missing⟩
    · exact ⟨fun text known => by simp [missing] at known, body⟩
    · exact ⟨parameters, fun text known => by simp [missing] at known⟩

/-- Tokens that open no missing part are passed over. -/
theorem readParts_plain {parts : MethodParts} {index : Nat} {tokens : List Token}
    (plain : ∀ token ∈ tokens, parts.opens? token = none) :
    readParts parts index tokens = .ok parts := by
  -- The reader passes token by token and finds no part to add.
  induction tokens generalizing index with
  | nil => rw [readParts]
  | cons token tokens ih =>
    rw [readParts, plain token (by simp)]
    exact ih fun later listed => plain later (by simp [listed])

/-- Where no part has been read, no parenthesis was there to open one. -/
theorem not_mem_of_readParts {parts found : MethodParts} {index : Nat} {tokens : List Token}
    (read : readParts parts index tokens = .ok found) (parameters : found.parameters? = none)
    (body : found.body? = none) : .symbol '(' ∉ tokens := by
  fun_induction readParts parts index tokens with
  | case1 => simp
  | case2 parts index token tokens unopened ih =>
    intro listed
    rcases List.mem_cons.mp listed with rfl | later
    · -- The parenthesis opens the parameters unless they are known, and then they stay known.
      cases known : parts.parameters? with
      | none => simp [MethodParts.opens?, known, Token.isSymbol] at unopened
      | some text => simp [(readParts_kept read).1 text known] at parameters
    · exact ih read later
  | case3 => cases read
  | case4 parts index token tokens delimiter opened offset closed ih =>
    -- The part that is read here is still known in the end.
    rcases MethodParts.opens?_missing opened with ⟨rfl, -⟩ | ⟨rfl, -⟩
    · simp [(readParts_kept read).1 _ rfl] at parameters
    · simp [(readParts_kept read).2 _ rfl] at body

end PhpOutline
