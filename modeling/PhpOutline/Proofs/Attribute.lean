import Mathlib
import PhpOutline.Proofs.Site
import PhpOutline.Proofs.Text.Trim

/-!
Attribute groups in front of a statement.

A search for the start of a statement looks back through them, one after the other, and through
nothing else, so it ends for every list of tokens and answers as if they were not there.
-/

namespace PhpOutline

section Groups

/-- Whether a square bracket closes what a token opens. -/
def Token.opensBracket (token : Token) : Bool :=
  -- The mark of an attribute group holds a bracket of its own.
  token.isSymbol '[' || token.isKind .attributeOpen

/-- Tokens in which square brackets never close more than is open and leave nothing open. -/
structure BracketsBalanced (tokens : List Token) : Prop where
  /-- No part of the tokens from the front on closes more than it opens. -/
  bounded : ∀ part ∈ tokens.inits,
    part.countP (Token.isSymbol ']') ≤ part.countP Token.opensBracket
  /-- In the end everything is closed. -/
  level : tokens.countP (Token.isSymbol ']') = tokens.countP Token.opensBracket

/-- An attribute group: its mark, balanced contents and the bracket that closes it. -/
inductive IsAttributeGroup : List Token → Prop
  | intro (mark : Token) (contents : List Token) (marks : mark.isKind .attributeOpen = true)
      (balanced : BracketsBalanced contents) :
      IsAttributeGroup (mark :: (contents ++ [.symbol ']']))

/-- Any number of attribute groups, with trivia around them. -/
inductive AttributeGroups : List Token → Prop
  | nil : AttributeGroups []
  | trivia {token : Token} {tokens : List Token} (skipped : token.isTrivia = true)
      (others : AttributeGroups tokens) : AttributeGroups (token :: tokens)
  | group {group tokens : List Token} (first : IsAttributeGroup group)
      (others : AttributeGroups tokens) : AttributeGroups (group ++ tokens)

end Groups

section Search

/-- What stands behind the mark of the attribute group in which some brackets are open. -/
def groupMark? : Nat → List Token → Option (List Token)
  -- Where a bracket that is no mark opens the outermost part, there is no group.
  | _, [] => none
  | depth, token :: rest =>
    if token.isSymbol ']' then groupMark? (depth + 1) rest
    else if token.opensBracket then
      if depth ≤ 1 then if token.isKind .attributeOpen then some rest else none
      else groupMark? (depth - 1) rest
    else groupMark? depth rest

/-- What stands behind the attribute group that is nearest to a place, if only trivia is between. -/
def behindGroup? (behind : List Token) : Option (List Token) :=
  -- The bracket that closes the group is met first.
  match behind.dropWhile Token.isTrivia with
  | [] => none
  | token :: rest => if token.isSymbol ']' then groupMark? 1 rest else none

/-- A search that looks back through so many attribute groups and comes to rest at a place. -/
inductive LooksBack : List Token → Nat → List Token → Prop
  /-- Without an attribute group behind it, the search is at its end. -/
  | rest {behind : List Token} (last : behindGroup? behind = none) : LooksBack behind 0 behind
  | through {behind before last : List Token} {groups : Nat}
      (group : behindGroup? behind = some before) (further : LooksBack before groups last) :
      LooksBack behind (groups + 1) last

end Search

section Balance

/-- A bracket that closes opens nothing. -/
theorem Token.opensBracket_of_closes {token : Token} (closes : token.isSymbol ']' = true) :
    token.opensBracket = false := by
  obtain rfl := Token.isSymbol_iff.mp closes
  rfl

/-- A token that opens a bracket closes none. -/
theorem Token.isSymbol_of_opensBracket {token : Token} (opens : token.opensBracket = true) :
    token.isSymbol ']' = false := by
  -- A token that closes a bracket opens none.
  by_contra closes
  rw [Token.opensBracket_of_closes (by simpa using closes)] at opens
  simp at opens

/-- The mark of an attribute group opens a bracket. -/
theorem Token.opensBracket_of_mark {token : Token} (marks : token.isKind .attributeOpen = true) :
    token.opensBracket = true := by
  simp [Token.opensBracket, marks]

/-- Read back, a token opens the outermost part, or a part stays open and the depth moves along. -/
theorem opens_or_moves (depth : Nat) (token : Token) :
    depth = 0 ∧ token.opensBracket = true ∨
      ∃ next, depth + [token].countP (Token.isSymbol ']') =
        next + [token].countP Token.opensBracket := by
  by_cases opens : token.opensBracket = true
  · cases depth with
    -- With nothing left to close, an opening bracket ends the walk.
    | zero => exact .inl ⟨rfl, opens⟩
    | succ depth =>
      -- Otherwise it takes one from the depth, and it closes nothing.
      exact .inr ⟨depth, by simp [opens, Token.isSymbol_of_opensBracket opens]⟩
  · exact .inr ⟨_, by simp only [List.countP_singleton, opens]; rfl⟩

/-- A search goes on over a token that does not open the outermost part. -/
theorem groupMark?_cons {depth next : Nat} {token : Token} (rest : List Token)
    (moves : depth + [token].countP (Token.isSymbol ']') =
      next + [token].countP Token.opensBracket) :
    groupMark? (depth + 1) (token :: rest) = groupMark? (next + 1) rest := by
  rw [groupMark?]
  by_cases closes : token.isSymbol ']' = true
  · -- Going back, a closing bracket adds to the depth.
    have apart := Token.opensBracket_of_closes closes
    obtain rfl : depth + 1 = next := by simpa [closes, apart] using moves
    rw [if_pos closes]
  · rw [if_neg closes]
    by_cases opens : token.opensBracket = true
    · -- An opening bracket takes one from it, but not the last.
      obtain rfl : depth = next + 1 := by simpa [closes, opens] using moves
      rw [if_pos opens, if_neg (by omega), Nat.add_sub_cancel]
    · obtain rfl : depth = next := by simpa [closes, opens] using moves
      rw [if_neg opens]

/-- Tokens that a search passes over in which, read back, no more is opened than is open. -/
structure PassedBack (depth : Nat) (run : List Token) : Prop where
  bounded : ∀ part ∈ run.inits,
    part.countP Token.opensBracket ≤ depth + part.countP (Token.isSymbol ']')
  level : run.countP Token.opensBracket = depth + run.countP (Token.isSymbol ']')

/-- The first token that a search passes over moves its depth. -/
theorem passedBack_cons_iff {depth next : Nat} {token : Token} {run : List Token}
    (moves : depth + [token].countP (Token.isSymbol ']') =
      next + [token].countP Token.opensBracket) :
    PassedBack depth (token :: run) ↔ PassedBack next run := by
  -- Every part that holds the token is the token and a part of the run behind it.
  constructor
  · intro passed
    constructor
    · intro part listed
      have bound := passed.bounded ([token] ++ part) (by simp [listed])
      rw [List.countP_append, List.countP_append] at bound
      omega
    · have level := passed.level
      rw [← List.singleton_append, List.countP_append, List.countP_append] at level
      omega
  · intro passed
    constructor
    · intro part listed
      rw [List.inits, List.mem_cons, List.mem_map] at listed
      rcases listed with rfl | ⟨later, listed, rfl⟩
      · exact Nat.zero_le _
      · have bound := passed.bounded later listed
        rw [← List.singleton_append, List.countP_append, List.countP_append]
        omega
    · have level := passed.level
      rw [← List.singleton_append, List.countP_append, List.countP_append]
      omega

/-- A token that opens the outermost part is not passed over. -/
theorem not_passedBack_cons {token : Token} (opens : token.opensBracket = true)
    (run : List Token) : ¬PassedBack 0 (token :: run) := by
  -- The bracket alone would already be one opening more than there are closings.
  intro passed
  have bound := passed.bounded [token] (by simp)
  simp [opens, Token.isSymbol_of_opensBracket opens] at bound

/-- A search ends at the mark in front of which everything that is open was opened. -/
theorem groupMark?_eq_some_iff {depth : Nat} {behind before : List Token} :
    groupMark? (depth + 1) behind = some before ↔
      ∃ run mark, behind = run ++ mark :: before ∧ mark.isKind .attributeOpen = true ∧
        PassedBack depth run := by
  -- The induction is on the tokens behind, and the depth changes with each of them.
  induction behind generalizing depth with
  | nil => simp [groupMark?]
  | cons token rest ih =>
    rcases opens_or_moves depth token with ⟨rfl, opens⟩ | ⟨next, moves⟩
    · -- The outermost part opens here, so nothing is passed over.
      have here : groupMark? (0 + 1) (token :: rest) =
          if token.isKind .attributeOpen then some rest else none := by
        simp [groupMark?, Token.isSymbol_of_opensBracket opens, opens]
      rw [here]
      constructor
      · intro found
        obtain ⟨marks, same⟩ := Option.ite_none_right_eq_some.mp found
        obtain rfl := Option.some.inj same
        exact ⟨[], token, rfl, marks, ⟨by simp, rfl⟩⟩
      · intro found
        obtain ⟨run, mark, whole, marks, passed⟩ := found
        cases run with
        | nil =>
          obtain ⟨rfl, rfl⟩ := List.cons.inj whole
          rw [if_pos marks]
        | cons first run =>
          obtain ⟨rfl, -⟩ := List.cons.inj whole
          exact absurd passed (not_passedBack_cons opens run)
    · rw [groupMark?_cons rest moves, ih]
      constructor
      · intro found
        obtain ⟨run, mark, rfl, marks, passed⟩ := found
        exact ⟨token :: run, mark, rfl, marks, (passedBack_cons_iff moves).mpr passed⟩
      · intro found
        obtain ⟨run, mark, whole, marks, passed⟩ := found
        cases run with
        | nil =>
          -- The mark would open more than is open.
          obtain ⟨rfl, -⟩ := List.cons.inj whole
          have opens := Token.opensBracket_of_mark marks
          have level : 0 = depth + 0 := passed.level
          have moved : depth = next + 1 := by
            simpa [opens, Token.isSymbol_of_opensBracket opens] using moves
          omega
        | cons first run =>
          obtain ⟨rfl, rfl⟩ := List.cons.inj whole
          exact ⟨run, mark, rfl, marks, (passedBack_cons_iff moves).mp passed⟩

/-- In the other order, what was closed too seldom is opened too seldom. -/
theorem countP_le_of_mem_inits_reverse {opens closes : Token → Bool} {tokens : List Token}
    (bounded : ∀ part ∈ tokens.inits, part.countP closes ≤ part.countP opens)
    (level : tokens.countP closes = tokens.countP opens) :
    ∀ part ∈ tokens.reverse.inits, part.countP opens ≤ part.countP closes := by
  intro part listed
  -- What stands in front of the part, in the first order, is bounded, and the whole is level.
  obtain ⟨front, whole⟩ : part.reverse <:+ tokens := by
    rw [← List.reverse_prefix, List.reverse_reverse]
    exact (List.mem_inits _ _).mp listed
  have bound := bounded front (by simp [← whole])
  rw [← whole] at level
  simp only [List.countP_append, List.countP_reverse] at level
  omega

/-- Contents are balanced exactly when a search that starts behind them passes over them. -/
theorem bracketsBalanced_iff {contents : List Token} :
    BracketsBalanced contents ↔ PassedBack 0 contents.reverse := by
  -- The brackets of a part from the back are those of the whole without a part from the front.
  constructor
  · intro balanced
    constructor
    · intro part listed
      rw [Nat.zero_add]
      exact countP_le_of_mem_inits_reverse balanced.bounded balanced.level part listed
    · rw [Nat.zero_add, List.countP_reverse, List.countP_reverse]
      exact balanced.level.symm
  · intro passed
    have bounded : ∀ part ∈ contents.reverse.inits,
        part.countP Token.opensBracket ≤ part.countP (Token.isSymbol ']') := by
      intro part listed
      have bound := passed.bounded part listed
      omega
    have level : contents.reverse.countP Token.opensBracket =
        contents.reverse.countP (Token.isSymbol ']') := by
      rw [passed.level, Nat.zero_add]
    constructor
    · have forward := countP_le_of_mem_inits_reverse bounded level
      rwa [List.reverse_reverse] at forward
    · rw [List.countP_reverse, List.countP_reverse] at level
      exact level.symm

end Balance

section Transparency

/-- With brackets open, the search for the start of a statement goes on behind the group's mark. -/
theorem startsStatementFrom_succ (depth : Nat) (behind : List Token) :
    startsStatementFrom (depth + 1) behind =
      (groupMark? (depth + 1) behind).any startsStatement := by
  -- Both take the same step for each token, up to the one that opens the outermost part.
  induction behind generalizing depth with
  | nil => rfl
  | cons token rest ih =>
    rw [startsStatementFrom, groupMark?]
    by_cases closes : token.isSymbol ']' = true
    · rw [if_pos closes, if_pos closes, ih]
    · rw [if_neg closes, if_neg closes]
      by_cases marks : token.isKind .attributeOpen = true
      · rw [if_pos marks, if_pos (Token.opensBracket_of_mark marks), if_pos marks]
        cases depth with
        | zero => rfl
        | succ depth =>
          rw [if_neg (by omega), Nat.add_sub_cancel, ih]
      · rw [if_neg marks]
        by_cases opens : token.isSymbol '[' = true
        · have bracket : token.opensBracket = true := by simp [Token.opensBracket, opens]
          rw [if_pos opens, if_pos bracket, if_neg marks]
          cases depth with
          | zero => rfl
          | succ depth =>
            rw [if_neg (by omega), Nat.add_sub_cancel, ih]
            rfl
        · have plain : ¬token.opensBracket = true := by simp [Token.opensBracket, opens, marks]
          rw [if_neg opens, if_neg plain, ih]

/-- Trivia behind a place does not change whether a statement starts there. -/
theorem startsStatement_dropWhile (behind : List Token) :
    startsStatement (behind.dropWhile Token.isTrivia) = startsStatement behind := by
  induction behind with
  | nil => rfl
  | cons token rest ih =>
    by_cases skipped : token.isTrivia = true
    · -- Trivia is passed over before anything else is looked at.
      rw [List.dropWhile_cons_of_pos skipped, ih]
      simp [startsStatement, startsStatementFrom, skipped]
    · rw [List.dropWhile_cons_of_neg skipped]

/-- Behind an attribute group a statement starts where one starts in front of it. -/
theorem startsStatement_of_group {behind before : List Token}
    (group : behindGroup? behind = some before) :
    startsStatement behind = startsStatement before := by
  -- The search passes the trivia, then the bracket that closes the group, and ends at its mark.
  rw [← startsStatement_dropWhile behind]
  unfold behindGroup? at group
  split at group
  · simp at group
  · rename_i token rest ahead
    obtain ⟨closes, found⟩ := Option.ite_none_right_eq_some.mp group
    obtain rfl := Token.isSymbol_iff.mp closes
    rw [ahead]
    show startsStatementFrom (0 + 1) rest = startsStatement before
    rw [startsStatementFrom_succ, found, Option.any_some]

/-- Without an attribute group the nearest significant token decides whether a statement starts. -/
theorem startsStatement_of_rest {behind : List Token} (last : behindGroup? behind = none) :
    startsStatement behind = (significantBehind behind).all Token.endsStatement := by
  have nearest : significantBehind behind = (behind.dropWhile Token.isTrivia).head? := by
    rw [significantBehind, List.find?_eq_head?_dropWhile_not]
    simp
  rw [← startsStatement_dropWhile behind, nearest]
  unfold behindGroup? at last
  split at last
  · rename_i ahead
    rw [ahead]
    rfl
  · rename_i token rest ahead
    have significant : token.isTrivia = false := by
      have fails := List.head?_dropWhile_not Token.isTrivia behind
      rwa [ahead] at fails
    rw [ahead, List.head?_cons, Option.all_some]
    by_cases closes : token.isSymbol ']' = true
    · -- The bracket closes no attribute group, and it ends no statement either.
      rw [if_pos closes] at last
      obtain rfl := Token.isSymbol_iff.mp closes
      show startsStatementFrom (0 + 1) rest = false
      rw [startsStatementFrom_succ, last, Option.any_none]
    · simp [startsStatement, startsStatementFrom, significant, closes]

/-- What a search looks back through is an attribute group, and any such group. -/
theorem behindGroup?_eq_some_iff {behind before : List Token} :
    behindGroup? behind = some before ↔
      ∃ group gap, IsAttributeGroup group ∧ (∀ token ∈ gap, token.isTrivia = true) ∧
        behind = gap ++ (group.reverse ++ before) := by
  have written (mark : Token) (contents : List Token) :
      (mark :: (contents ++ [.symbol ']'])).reverse ++ before =
        .symbol ']' :: (contents.reverse ++ mark :: before) := by
    simp
  constructor
  · intro group
    unfold behindGroup? at group
    split at group
    · simp at group
    · rename_i token rest ahead
      obtain ⟨closes, found⟩ := Option.ite_none_right_eq_some.mp group
      obtain rfl := Token.isSymbol_iff.mp closes
      -- The gap is what was dropped, and the walk back from the bracket ended at the mark.
      obtain ⟨gap, rfl, skipped, -⟩ := dropWhile_eq_iff.mp ahead
      obtain ⟨run, mark, rfl, marks, passed⟩ := groupMark?_eq_some_iff.mp found
      have balanced : BracketsBalanced run.reverse :=
        bracketsBalanced_iff.mpr (by rwa [List.reverse_reverse])
      refine ⟨_, gap, .intro mark run.reverse marks balanced, skipped, ?_⟩
      rw [written, List.reverse_reverse]
  · intro split
    obtain ⟨group, gap, grouped, skipped, rfl⟩ := split
    obtain ⟨mark, contents, marks, balanced⟩ := grouped
    -- The gap is dropped, for the bracket behind it is no trivia.
    have ahead : (gap ++ .symbol ']' :: (contents.reverse ++ mark :: before)).dropWhile
        Token.isTrivia = .symbol ']' :: (contents.reverse ++ mark :: before) := by
      rw [List.dropWhile_append_of_pos skipped]
      rfl
    rw [written, behindGroup?, ahead]
    show groupMark? (0 + 1) (contents.reverse ++ mark :: before) = some before
    exact groupMark?_eq_some_iff.mpr
      ⟨contents.reverse, mark, rfl, marks, bracketsBalanced_iff.mp balanced⟩

/-- Attribute groups behind a place do not change whether a statement starts there. -/
theorem AttributeGroups.startsStatement_eq {groups : List Token}
    (attributes : AttributeGroups groups) (behind : List Token) :
    startsStatement (groups.reverse ++ behind) = startsStatement behind := by
  -- The groups are taken off one by one, the last of them being nearest to the place.
  induction attributes generalizing behind with
  | nil => rfl
  | @trivia token tokens skipped others ih =>
    rw [List.reverse_cons, List.append_assoc, List.singleton_append, ih]
    simp [startsStatement, startsStatementFrom, skipped]
  | @group group tokens first others ih =>
    have seen : behindGroup? (group.reverse ++ behind) = some behind :=
      behindGroup?_eq_some_iff.mpr ⟨group, [], first, by simp, rfl⟩
    rw [List.reverse_append, List.append_assoc, ih, startsStatement_of_group seen]

/-- A search comes to rest, and looks back through no more groups than marks stand behind. -/
theorem exists_looksBack (behind : List Token) :
    ∃ groups last, LooksBack behind groups last ∧
      groups + last.countP (Token.isKind .attributeOpen) ≤
        behind.countP (Token.isKind .attributeOpen) := by
  -- The induction is on the number of marks, of which every group takes one.
  induction counted : behind.countP (Token.isKind .attributeOpen)
    using Nat.strongRecOn generalizing behind with
  | ind count ih =>
    cases group : behindGroup? behind with
    | none => exact ⟨0, behind, .rest group, by omega⟩
    | some before =>
      obtain ⟨tokens, gap, grouped, -, rfl⟩ := behindGroup?_eq_some_iff.mp group
      obtain ⟨mark, contents, marks, -⟩ := grouped
      have fewer : before.countP (Token.isKind .attributeOpen) + 1 ≤ count := by
        have own : [mark].countP (Token.isKind .attributeOpen) = 1 := by simp [marks]
        simp only [← counted, List.reverse_cons, List.countP_append, own]
        omega
      obtain ⟨groups, last, further, bound⟩ := ih _ (by omega) before rfl
      exact ⟨groups + 1, last, .through group further, by omega⟩

/-- A search that comes to rest answers by the nearest significant token there. -/
theorem LooksBack.startsStatement_eq {behind last : List Token} {groups : Nat}
    (looks : LooksBack behind groups last) :
    startsStatement behind = (significantBehind last).all Token.endsStatement := by
  -- Each group that is looked through leaves the answer to what stands before it.
  induction looks with
  | rest none => exact startsStatement_of_rest none
  | through group _ ih => rw [startsStatement_of_group group, ih]

/-- Tokens put in front of a place are the nearest behind it. -/
theorem Site.behind_inserted (tokens inserted : List Token) (index : Nat) :
    (Site.at (tokens.take index ++ inserted ++ tokens.drop index)
      (index + inserted.length)).behind = inserted.reverse ++ (Site.at tokens index).behind := by
  -- An index behind the end inserts at the end.
  have front : (tokens.take index ++ inserted ++ tokens.drop index).take
      (index + inserted.length) = tokens.take index ++ inserted := by
    by_cases inside : index ≤ tokens.length
    · have length : index + inserted.length = (tokens.take index ++ inserted).length := by
        rw [List.length_append, List.length_take_of_le inside]
      rw [length, List.take_left]
    · rw [List.drop_eq_nil_of_le (by omega), List.append_nil, List.take_of_length_le]
      rw [List.length_append, List.length_take]
      omega
  show List.reverse _ = inserted.reverse ++ (tokens.take index).reverse
  rw [front, List.reverse_append]

/-- In the order of the tokens, an attribute group stands between what is in front and trivia. -/
theorem behindGroup?_reverse_iff {tokens front : List Token} :
    behindGroup? tokens.reverse = some front.reverse ↔
      ∃ group gap, IsAttributeGroup group ∧ (∀ token ∈ gap, token.isTrivia = true) ∧
        tokens = front ++ group ++ gap := by
  -- Read forwards, what stands before the group comes first and the gap comes last.
  rw [behindGroup?_eq_some_iff]
  constructor
  · intro split
    obtain ⟨group, gap, grouped, skipped, whole⟩ := split
    refine ⟨group, gap.reverse, grouped, by simpa using skipped, ?_⟩
    rw [List.reverse_eq_iff] at whole
    simpa using whole
  · intro split
    obtain ⟨group, gap, grouped, skipped, whole⟩ := split
    exact ⟨group, gap.reverse, grouped, by simpa using skipped, by simp [whole]⟩

end Transparency

/--
Attribute groups put in front of a place do not change whether a statement starts there.

The search looks back through one group after the other, at most as often as marks stand behind the
place, and comes to rest for every list of tokens, balanced or not; the nearest significant token
there gives the answer.
What it looks back through is an attribute group and then trivia, never a part that a plain bracket
opens.
-/
theorem attribute_groups_transparent (tokens : List Token) (index : Nat) :
    (∀ groups, AttributeGroups groups →
      startsStatement (Site.at (tokens.take index ++ groups ++ tokens.drop index)
        (index + groups.length)).behind = startsStatement (Site.at tokens index).behind) ∧
    (∃ groups last, LooksBack (Site.at tokens index).behind groups last ∧
      groups ≤ (Site.at tokens index).behind.countP (Token.isKind .attributeOpen) ∧
      startsStatement (Site.at tokens index).behind =
        (significantBehind last).all Token.endsStatement) ∧
    ∀ front : List Token, behindGroup? (Site.at tokens index).behind = some front.reverse ↔
      ∃ group gap, IsAttributeGroup group ∧ (∀ token ∈ gap, token.isTrivia = true) ∧
        tokens.take index = front ++ group ++ gap := by
  refine ⟨?_, ?_, fun front => behindGroup?_reverse_iff⟩
  · -- The groups are inserted right before the site, so they are the first to be looked through.
    intro groups attributes
    rw [Site.behind_inserted]
    exact attributes.startsStatement_eq _
  · obtain ⟨groups, last, looks, bound⟩ := exists_looksBack (Site.at tokens index).behind
    exact ⟨groups, last, looks, by omega, looks.startsStatement_eq⟩

/-- Two groups, one with a nested array and another mark in it, and a comment between them. -/
theorem attribute_groups_transparent_stacked :
    let tokens : List Token := [.symbol '{', .typed (.word .privateWord) "private" 2]
    let contents : List Token :=
      [.typed .identifier "Column" 1, .symbol '(', .symbol '[', .typed .integer "1" 1,
       .symbol ']', .symbol ',', .typed .attributeOpen "#[" 1, .symbol ']', .symbol ')']
    let groups : List Token :=
      .typed .attributeOpen "#[" 1 :: (contents ++ [.symbol ']']) ++
        .typed .comment "/* key */" 1 ::
          (.typed .attributeOpen "#[" 1 :: ([.typed .identifier "Id" 1] ++ [.symbol ']']) ++
            [.typed .whitespace "\n" 1])
    AttributeGroups groups ∧
      startsStatement (Site.at (tokens.take 1 ++ groups ++ tokens.drop 1)
        (1 + groups.length)).behind = startsStatement (Site.at tokens 1).behind ∧
      startsStatement (Site.at tokens 1).behind = true := by
  intro tokens contents groups
  -- Parentheses do not count, so only the square brackets have to balance.
  have nested : BracketsBalanced contents := ⟨by decide, by decide⟩
  have plain : BracketsBalanced [.typed .identifier "Id" 1] := ⟨by decide, by decide⟩
  have attributes : AttributeGroups groups :=
    .group (.intro _ contents rfl nested)
      (.trivia rfl (.group (.intro _ _ rfl plain) (.trivia rfl .nil)))
  exact ⟨attributes, (attribute_groups_transparent tokens 1).1 groups attributes, rfl⟩

end PhpOutline
