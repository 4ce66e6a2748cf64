import Mathlib.Data.List.TakeWhile
import PhpOutline.Proofs.Site

/-!
Bare tokens: what is left of a list of tokens without trivia and without lines.

An index of a list has its place among the bare tokens, and cutting the list there cuts them too.
A test that no trivia passes and that does not look at lines finds the same in both.
-/

namespace PhpOutline

/-- A token with its line forgotten. -/
def Token.unlined : Token → Token
  -- A symbol has no line to forget.
  | .symbol char => .symbol char
  | .typed kind text _ => .typed kind text 0

/-- The tokens that are no trivia, without their lines. -/
def bare (tokens : List Token) : List Token :=
  -- The order and the repetitions of the tokens stay.
  (tokens.filter fun token => !token.isTrivia).map Token.unlined

/-- How many bare tokens come before an index. -/
def bareIndex (tokens : List Token) (index : Nat) : Nat :=
  -- An index past the end has all of them before it.
  (bare (tokens.take index)).length

@[simp] theorem Token.unlined_symbol (char : Char) : (Token.symbol char).unlined = .symbol char :=
  rfl

@[simp] theorem Token.text_unlined (token : Token) : token.unlined.text = token.text := by
  cases token <;> rfl

@[simp] theorem Token.kind?_unlined (token : Token) : token.unlined.kind? = token.kind? := by
  cases token <;> rfl

@[simp] theorem Token.isSymbol_unlined (char : Char) (token : Token) :
    token.unlined.isSymbol char = token.isSymbol char := by
  cases token <;> rfl

@[simp] theorem Token.isKind_unlined (kind : Kind) (token : Token) :
    token.unlined.isKind kind = token.isKind kind := by
  cases token <;> rfl

@[simp] theorem Token.isWord_unlined (keyword : Keyword) (token : Token) :
    token.unlined.isWord keyword = token.isWord keyword :=
  Token.isKind_unlined _ token

@[simp] theorem Token.isTrivia_unlined (token : Token) :
    token.unlined.isTrivia = token.isTrivia := by
  cases token <;> rfl

@[simp] theorem Token.isNamePart_unlined (token : Token) :
    token.unlined.isNamePart = token.isNamePart := by
  cases token <;> rfl

@[simp] theorem Token.namesFunction_unlined (token : Token) :
    token.unlined.namesFunction = token.namesFunction := by
  cases token <;> rfl

/-- Forgetting a line that is forgotten changes nothing. -/
@[simp] theorem Token.unlined_unlined (token : Token) : token.unlined.unlined = token.unlined := by
  cases token <;> rfl

@[simp] theorem bare_nil : bare [] = [] := rfl

/-- Trivia leaves nothing. -/
theorem bare_cons_of_trivia {token : Token} (trivia : token.isTrivia = true) (rest : List Token) :
    bare (token :: rest) = bare rest := by
  simp [bare, trivia]

/-- Any other token is left without its line. -/
theorem bare_cons_of_significant {token : Token} (significant : token.isTrivia = false)
    (rest : List Token) : bare (token :: rest) = token.unlined :: bare rest := by
  simp [bare, significant]

/-- The bare tokens of two lists follow one another. -/
@[simp] theorem bare_append (left right : List Token) :
    bare (left ++ right) = bare left ++ bare right := by
  simp [bare]

/-- The bare tokens of a reversed list are those of the list, reversed. -/
@[simp] theorem bare_reverse (tokens : List Token) :
    bare tokens.reverse = (bare tokens).reverse := by
  simp [bare, List.filter_reverse]

/-- A bare token comes from one that is no trivia. -/
theorem exists_of_mem_bare {token : Token} {tokens : List Token} (member : token ∈ bare tokens) :
    ∃ original ∈ tokens, original.isTrivia = false ∧ original.unlined = token := by
  -- Bare tokens are a filtered list with the lines forgotten, so each comes from a token of its
  -- own.
  obtain ⟨original, kept, rfl⟩ := List.mem_map.mp member
  obtain ⟨listed, significant⟩ := List.mem_filter.mp kept
  exact ⟨original, listed, by simpa using significant, rfl⟩

/-- Bare tokens are no trivia. -/
theorem isTrivia_of_mem_bare {token : Token} {tokens : List Token} (member : token ∈ bare tokens) :
    token.isTrivia = false := by
  obtain ⟨original, -, significant, rfl⟩ := exists_of_mem_bare member
  rwa [Token.isTrivia_unlined]

@[simp] theorem bareIndex_zero (tokens : List Token) : bareIndex tokens 0 = 0 := by
  simp [bareIndex]

/-- Trivia at the front does not count. -/
theorem bareIndex_cons_of_trivia {token : Token} (trivia : token.isTrivia = true)
    (rest : List Token) (index : Nat) :
    bareIndex (token :: rest) (index + 1) = bareIndex rest index := by
  simp [bareIndex, bare_cons_of_trivia trivia]

/-- Any other token at the front counts once. -/
theorem bareIndex_cons_of_significant {token : Token} (significant : token.isTrivia = false)
    (rest : List Token) (index : Nat) :
    bareIndex (token :: rest) (index + 1) = bareIndex rest index + 1 := by
  simp [bareIndex, bare_cons_of_significant significant]

/-- The places of two steps add up. -/
theorem bareIndex_add (tokens : List Token) (index count : Nat) :
    bareIndex tokens (index + count) =
      bareIndex tokens index + bareIndex (tokens.drop index) count := by
  simp [bareIndex, List.take_add]

/-- A later index has no earlier place. -/
theorem bareIndex_mono (tokens : List Token) {earlier later : Nat} (ordered : earlier ≤ later) :
    bareIndex tokens earlier ≤ bareIndex tokens later := by
  -- The later index has the tokens in between before it as well.
  obtain ⟨count, rfl⟩ := Nat.exists_eq_add_of_le ordered
  rw [bareIndex_add]
  exact Nat.le_add_right _ _

/-- The end of a list comes after all bare tokens. -/
theorem bareIndex_of_length_le {tokens : List Token} {index : Nat} (ended : tokens.length ≤ index) :
    bareIndex tokens index = (bare tokens).length := by
  rw [bareIndex, List.take_of_length_le ended]

/-- Past a token that is no trivia the place is one further. -/
theorem bareIndex_succ_of_significant {tokens : List Token} {index : Nat} {token : Token}
    (present : tokens[index]? = some token) (significant : token.isTrivia = false) :
    bareIndex tokens (index + 1) = bareIndex tokens index + 1 := by
  -- The next index has one token more before it, and that one is bare.
  obtain ⟨inside, rfl⟩ := List.getElem?_eq_some_iff.mp present
  rw [bareIndex_add, List.drop_eq_getElem_cons inside, bareIndex_cons_of_significant significant,
    bareIndex_zero]

/-- Past trivia the place is the same. -/
theorem bareIndex_succ_of_trivia {tokens : List Token} {index : Nat} {token : Token}
    (present : tokens[index]? = some token) (trivia : token.isTrivia = true) :
    bareIndex tokens (index + 1) = bareIndex tokens index := by
  -- The next index has one token more before it, and trivia does not count.
  obtain ⟨inside, rfl⟩ := List.getElem?_eq_some_iff.mp present
  rw [bareIndex_add, List.drop_eq_getElem_cons inside, bareIndex_cons_of_trivia trivia,
    bareIndex_zero, Nat.add_zero]

/-- Cutting a list splits its bare tokens at the place of the cut. -/
theorem bare_split (tokens : List Token) (index : Nat) :
    bare tokens = bare (tokens.take index) ++ bare (tokens.drop index) := by
  rw [← bare_append, List.take_append_drop]

/-- The bare tokens before an index are the first ones. -/
theorem bare_take (tokens : List Token) (index : Nat) :
    bare (tokens.take index) = (bare tokens).take (bareIndex tokens index) := by
  rw [bare_split tokens index, bareIndex, List.take_left']
  rfl

/-- The bare tokens from an index on are the other ones. -/
theorem bare_drop (tokens : List Token) (index : Nat) :
    bare (tokens.drop index) = (bare tokens).drop (bareIndex tokens index) := by
  rw [bare_split tokens index, bareIndex, List.drop_left']
  rfl

/-- A token that is no trivia stands at its place among the bare tokens. -/
theorem getElem?_bare {tokens : List Token} {index : Nat} {token : Token}
    (present : tokens[index]? = some token) (significant : token.isTrivia = false) :
    (bare tokens)[bareIndex tokens index]? = some token.unlined := by
  -- Cutting both lists at the index leaves the token at the head of each.
  obtain ⟨inside, rfl⟩ := List.getElem?_eq_some_iff.mp present
  rw [← List.head?_drop, ← bare_drop, List.drop_eq_getElem_cons inside,
    bare_cons_of_significant significant, List.head?_cons]

/-- A run of tokens that trivia does not end is the same run among the bare tokens. -/
theorem bare_takeWhile {test : Token → Bool}
    (passes : ∀ token : Token, token.isTrivia = true → test token = true)
    (unlined : ∀ token : Token, test token.unlined = test token) (tokens : List Token) :
    bare (tokens.takeWhile test) = (bare tokens).takeWhile test := by
  -- Trivia never ends the run, so both runs end at the same significant token.
  induction tokens with
  | nil => rfl
  | cons token rest ih =>
    cases trivia : token.isTrivia with
    | true => rw [List.takeWhile_cons_of_pos (passes token trivia), bare_cons_of_trivia trivia,
        bare_cons_of_trivia trivia, ih]
    | false =>
      rw [bare_cons_of_significant trivia]
      cases passed : test token with
      | true => rw [List.takeWhile_cons_of_pos passed, bare_cons_of_significant trivia, ih,
          List.takeWhile_cons_of_pos (by rw [unlined, passed])]
      | false => rw [List.takeWhile_cons_of_neg (by simp [passed]),
          List.takeWhile_cons_of_neg (by simp [unlined, passed]), bare_nil]

/-- A test that no trivia passes and that does not look at lines. -/
structure Structural (test : Token → Bool) : Prop where
  trivia : ∀ token : Token, token.isTrivia = true → test token = false
  unlined : ∀ token : Token, test token.unlined = test token

/-- A token that passes such a test is no trivia. -/
theorem Structural.significant {test : Token → Bool} (structural : Structural test) {token : Token}
    (passed : test token = true) : token.isTrivia = false := by
  -- A token is trivia or not, and if it were the test would fail.
  cases trivia : token.isTrivia with
  | false => rfl
  | true => simp [structural.trivia token trivia] at passed

/-- Tests for symbols are structural. -/
theorem Structural.symbol (char : Char) : Structural (Token.isSymbol char) where
  -- Trivia is always typed, so no symbol is trivia.
  trivia := by
    intro token trivia
    cases token <;> simp_all [Token.isTrivia, Token.isSymbol]
  unlined := Token.isSymbol_unlined char

/-- Tests for kinds that are no trivia are structural. -/
theorem Structural.kind {kind : Kind} (significant : kind ≠ .whitespace ∧ kind.isComment = false) :
    Structural (Token.isKind kind) where
  trivia := by
    intro token trivia
    cases token with
    | symbol char => rfl
    | typed own text line =>
      cases same : own == kind with
      | false => exact same
      -- Trivia is white space or a comment, and the kind is neither.
      | true =>
        obtain rfl := beq_iff_eq.mp same
        simp [Token.isTrivia, significant.1, significant.2] at trivia
  unlined := Token.isKind_unlined kind

/-- The test for a variable is structural. -/
theorem Structural.variableName : Structural (Token.isKind .variableName) :=
  .kind ⟨by simp, rfl⟩

/-- Tests for reserved words are structural. -/
theorem Structural.word (keyword : Keyword) : Structural (Token.isWord keyword) :=
  Structural.kind ⟨by simp, rfl⟩

/-- Passing one of two structural tests is structural. -/
theorem Structural.or {left right : Token → Bool} (one : Structural left)
    (other : Structural right) :
    Structural fun token => left token || right token where
  -- What holds of both tests holds of the one that either passes.
  trivia := by
    intro token trivia
    simp [one.trivia token trivia, other.trivia token trivia]
  unlined := by
    intro token
    rw [one.unlined, other.unlined]

/-- Being no trivia is structural. -/
theorem Structural.noTrivia : Structural fun token => !token.isTrivia where
  trivia := by simp
  unlined := by simp

/-- What may name a function is structural. -/
theorem Structural.namesFunction : Structural Token.namesFunction where
  trivia := by
    intro token trivia
    cases token with
    | symbol char => rfl
    -- The kinds that name a function are the identifiers and the reserved words.
    | typed kind text line =>
      cases kind <;> simp_all [Token.isTrivia, Token.namesFunction, Kind.isReserved, Kind.isComment]
  unlined := Token.namesFunction_unlined

/-- What may name a class is structural. -/
theorem Structural.namesClass : Structural Token.namesClass :=
  .or (.kind ⟨by simp, rfl⟩) (.word .enumWord)

end PhpOutline
