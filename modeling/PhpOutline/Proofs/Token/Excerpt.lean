import Mathlib
import PhpOutline.Proofs.Cursor
import PhpOutline.Proofs.Text.Split
import PhpOutline.Proofs.Text.Trim
import PhpOutline.Token.Excerpt

/-!
Groups of tokens, and lists of tokens without their outer runs.

The groups of a list and the tokens that cut it make up the list, with a limit and without one.
Trimming takes away the longest runs at the ends and nothing else, and a cursor that moves inward
from either end comes to stand where a trimmed list starts or ends.
-/

namespace PhpOutline

/--
Cutting a list of tokens and joining the groups undo each other, with a limit and without one.

There is one group more than there are tokens that cut, no group in front of one of these holds a
token that passes the pattern, and with those that cut between them the groups are the list.
A limit leaves the groups in front as they are, and the last one is made of all the others.
-/
theorem splitTokens_rejoin (pattern : Pattern) (tokens : List Token) (limit : Option Nat) :
    let delimiters := tokens.filter pattern.accepts
    let cuts := cutCount limit delimiters.length
    let groups := splitTokens pattern tokens limit
    let unlimited := splitTokens pattern tokens none
    groups.length = cuts + 1 ∧
    (∀ group ∈ groups.take cuts, ∀ token ∈ group, pattern.accepts token = false) ∧
    (∀ group ∈ unlimited, ∀ token ∈ group, pattern.accepts token = false) ∧
    rejoin groups (delimiters.take cuts) = tokens ∧
    groups = unlimited.take cuts ++ [rejoin (unlimited.drop cuts) (delimiters.drop cuts)] := by
  -- A limit counts cuts, and there are as many to make as delimiters.
  intro delimiters cuts groups unlimited
  have counted : cuts = cutCount limit (tokens.countP pattern.accepts) := by
    rw [List.countP_eq_length_filter]
  rw [counted]
  exact ⟨length_splitAtMost limit tokens, plain_of_mem_take_splitAtMost limit tokens,
    plain_of_mem_splitAtMost _ tokens, rejoin_splitAtMost _ limit tokens,
    splitAtMost_eq_take limit tokens⟩

/-- Trimming at the front leaves the list without its front run. -/
theorem trimLeft_eq_iff {pattern : Pattern} {tokens rest : List Token} :
    trimLeft pattern tokens = rest ↔ StripsFront pattern.accepts tokens rest :=
  dropWhile_eq_iff

/-- Trimming at the back leaves the list without its back run. -/
theorem trimRight_eq_iff {pattern : Pattern} {tokens rest : List Token} :
    trimRight pattern tokens = rest ↔ StripsBack pattern.accepts tokens rest :=
  rdropWhile_eq_iff

/-- Trimming at both ends leaves the list without either run. -/
theorem trimBoth_eq_iff {pattern : Pattern} {tokens rest : List Token} :
    trimBoth pattern tokens = rest ↔ StripsBoth pattern.accepts tokens rest :=
  trimmed_eq_iff

/-- It does not matter which end is trimmed first. -/
theorem trimLeft_trimRight (pattern : Pattern) (tokens : List Token) :
    trimLeft pattern (trimRight pattern tokens) = trimBoth pattern tokens := by
  -- Both orders strip the two ends.
  symm
  rw [trimBoth_eq_iff]
  exact (trimRight_eq_iff.mp rfl).stripsBoth (trimLeft_eq_iff.mp rfl)

section Steps

/-- A cursor that moves for as long as it stands on tokens that pass a test comes to rest. -/
inductive Cursor.RestsAt (move : Cursor → Cursor) (test : Token → Bool) : Cursor → Cursor → Prop
  /-- A cursor on a token that fails, or on none, does not move. -/
  | stay {cursor : Cursor} (stops : ∀ token ∈ cursor.current?, test token = false) :
      RestsAt move test cursor cursor
  | step {cursor rest : Cursor} {token : Token} (here : cursor.current? = some token)
      (passes : test token = true) (further : RestsAt move test (move cursor) rest) :
      RestsAt move test cursor rest

/-- A cursor on the last token. -/
def Cursor.last (tokens : List Token) : Cursor :=
  -- On an empty list this position is still in front of the start.
  { tokens, position := tokens.length - 1 }

/-- The tokens from a cursor on. -/
def Cursor.ahead (cursor : Cursor) : List Token :=
  -- A cursor that has left the tokens has none.
  match cursor.index? with
  | some first => cursor.tokens.drop first
  | none => []

/-- The tokens up to a cursor. -/
def Cursor.upTo (cursor : Cursor) : List Token :=
  -- A cursor that has left the tokens has none.
  match cursor.index? with
  | some last => cursor.tokens.take (last + 1)
  | none => []

variable {test : Token → Bool} {tokens : List Token}

/-- A cursor at an index has the tokens from there on ahead. -/
theorem Cursor.ahead_at (tokens : List Token) (index : Nat) :
    Cursor.ahead ⟨tokens, index⟩ = tokens.drop index := by
  -- A cursor within the list stands at a token, and behind its end nothing is ahead.
  by_cases inside : index < tokens.length
  · rw [Cursor.ahead, Cursor.index?_eq_some_iff.mpr ⟨inside, rfl⟩]
  · have gone : Cursor.index? ⟨tokens, index⟩ = none := by simp [Cursor.index?, inside]
    rw [Cursor.ahead, gone, List.drop_eq_nil_of_le (by omega)]

/-- A cursor on the last of so many tokens has these up to it. -/
theorem Cursor.upTo_at {count : Nat} (within : count ≤ tokens.length) :
    Cursor.upTo ⟨tokens, (count : Int) - 1⟩ = tokens.take count := by
  -- The cursor stands on the last of the tokens counted, or before the first.
  cases count with
  | zero => rfl
  | succ index =>
    have valid : Cursor.index? ⟨tokens, ((index + 1 : Nat) : Int) - 1⟩ = some index :=
      Cursor.index?_eq_some_iff.mpr ⟨within, by simp⟩
    rw [Cursor.upTo, valid]

/-- A cursor that moves on comes to rest on the first token that fails. -/
theorem Cursor.restsAt_next (test : Token → Bool) {index : Nat} (within : index ≤ tokens.length) :
    ∃ rest, Cursor.RestsAt Cursor.next test ⟨tokens, index⟩ rest ∧
      rest.ahead = (tokens.drop index).dropWhile test := by
  -- The induction is on the number of tokens ahead.
  induction left : tokens.length - index generalizing index with
  | zero =>
    obtain rfl : index = tokens.length := by omega
    exact ⟨_, .stay (by simp [Cursor.current?_at]), by simp [Cursor.ahead_at]⟩
  | succ count ih =>
    have inside : index < tokens.length := by omega
    have here : Cursor.current? ⟨tokens, index⟩ = some tokens[index] := by
      rw [Cursor.current?_at, List.getElem?_eq_getElem inside]
    rw [List.drop_eq_getElem_cons inside]
    cases passes : test tokens[index] with
    | true =>
      obtain ⟨rest, further, ahead⟩ := ih (by omega : index + 1 ≤ tokens.length) (by omega)
      refine ⟨rest, .step here passes (by rwa [Cursor.next_at inside]), ?_⟩
      rw [ahead, List.dropWhile_cons_of_pos passes]
    | false =>
      refine ⟨_, .stay (by simp [here, passes]), ?_⟩
      rw [Cursor.ahead_at, List.drop_eq_getElem_cons inside,
        List.dropWhile_cons_of_neg (by simp [passes])]

/-- A cursor that moves back comes to rest on the last token that fails. -/
theorem Cursor.restsAt_back (test : Token → Bool) {count : Nat} (within : count ≤ tokens.length) :
    ∃ rest, Cursor.RestsAt Cursor.back test ⟨tokens, (count : Int) - 1⟩ rest ∧
      rest.upTo = ((tokens.take count).reverse.dropWhile test).reverse := by
  -- The induction is on the number of tokens up to the cursor.
  induction count with
  | zero =>
    refine ⟨_, .stay (by simp [Cursor.current?, Cursor.index?]), ?_⟩
    rw [Cursor.upTo_at within]
    rfl
  | succ index ih =>
    have here : Cursor.current? ⟨tokens, ((index + 1 : Nat) : Int) - 1⟩ = some tokens[index] := by
      rw [Int.natCast_succ, Int.add_sub_cancel, Cursor.current?_at, List.getElem?_eq_getElem within]
    have back : Cursor.back ⟨tokens, ((index + 1 : Nat) : Int) - 1⟩ =
        ⟨tokens, (index : Int) - 1⟩ := by
      simp [Cursor.back]
    have turned : (tokens.take (index + 1)).reverse =
        tokens[index] :: (tokens.take index).reverse := by
      rw [List.take_succ_eq_append_getElem within, List.reverse_append]
      rfl
    cases passes : test tokens[index] with
    | true =>
      obtain ⟨rest, further, upTo⟩ := ih (by omega)
      refine ⟨rest, .step here passes (by rwa [back]), ?_⟩
      rw [upTo, turned, List.dropWhile_cons_of_pos passes]
    | false =>
      refine ⟨_, .stay (by rw [here]; simp [passes]), ?_⟩
      rw [Cursor.upTo_at within, turned, List.dropWhile_cons_of_neg (by simp [passes]), ← turned,
        List.reverse_reverse]

end Steps

/--
Trimming takes away exactly the longest outer runs of tokens that pass a pattern.

What is left is the one list that has no such token at the end that was trimmed and makes up the
whole with a run of them, so trimming again changes nothing, and the order of the ends is free.
A cursor that moves inward from an end for as long as tokens pass comes to rest where the trimmed
list starts or ends, and outside of the tokens if all of them pass.
-/
theorem trimming_takes_outer_runs (pattern? : Option Pattern) (tokens : List Token) :
    let pattern := pattern?.getD .whitespace
    (∀ rest, trimLeft pattern tokens = rest ↔ StripsFront pattern.accepts tokens rest) ∧
    (∀ rest, trimRight pattern tokens = rest ↔ StripsBack pattern.accepts tokens rest) ∧
    (∀ rest, trimBoth pattern tokens = rest ↔ StripsBoth pattern.accepts tokens rest) ∧
    trimLeft pattern (trimLeft pattern tokens) = trimLeft pattern tokens ∧
    trimRight pattern (trimRight pattern tokens) = trimRight pattern tokens ∧
    trimBoth pattern (trimBoth pattern tokens) = trimBoth pattern tokens ∧
    trimLeft pattern (trimRight pattern tokens) = trimBoth pattern tokens ∧
    trimRight pattern (trimLeft pattern tokens) = trimBoth pattern tokens ∧
    (∃ rest, Cursor.RestsAt Cursor.next pattern.accepts (Cursor.start tokens) rest ∧
      trimLeft pattern tokens = rest.ahead) ∧
    ∃ rest, Cursor.RestsAt Cursor.back pattern.accepts (Cursor.last tokens) rest ∧
      trimRight pattern tokens = rest.upTo := by
  intro pattern
  -- What is stripped already has nothing to strip.
  refine ⟨fun _ => trimLeft_eq_iff, fun _ => trimRight_eq_iff, fun _ => trimBoth_eq_iff,
    trimLeft_eq_iff.mpr (trimLeft_eq_iff.mp rfl).again,
    trimRight_eq_iff.mpr (trimRight_eq_iff.mp rfl).again,
    trimBoth_eq_iff.mpr (trimBoth_eq_iff.mp rfl).again,
    trimLeft_trimRight pattern tokens, rfl, ?_, ?_⟩
  · -- From the front the cursor moves on while the tokens pass, and what is ahead stays.
    obtain ⟨rest, moves, ahead⟩ := Cursor.restsAt_next pattern.accepts (Nat.zero_le tokens.length)
    exact ⟨rest, moves, ahead.symm⟩
  · -- From the back it moves to the front, and what is up to it stays.
    obtain ⟨rest, moves, upTo⟩ := Cursor.restsAt_back pattern.accepts (Nat.le_refl tokens.length)
    rw [List.take_length] at upTo
    exact ⟨rest, moves, upTo.symm⟩

end PhpOutline
