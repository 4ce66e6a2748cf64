import Mathlib.Tactic.Common
import PhpOutline.Text.Basic

/-!
Lists cut at delimiters, and put together again.

The groups with the delimiters that cut between them are the list, and a limit only keeps the last
groups together.
-/

namespace PhpOutline

section Pieces

variable {α : Type} {isDelimiter : α → Bool}

/-- Cutting at every delimiter is the library's way to cut. -/
theorem splitAt_eq_splitOnP (isDelimiter : α → Bool) (items : List α) :
    splitAt isDelimiter items = items.splitOnP isDelimiter := by
  -- Over the items: a delimiter opens a group, another item joins the first one.
  induction items with
  | nil => rfl
  | cons item rest ih =>
    obtain ⟨group, groups, cut⟩ :=
      List.exists_cons_of_ne_nil (List.splitOnP_ne_nil isDelimiter rest)
    rw [splitAt] at ih
    rw [splitAt, splitAtMost, Option.map_none, ih, cut, List.splitOnP_cons_eq_if_modifyHead, cut]
    cases isDelimiter item <;> rfl

/-- There is always a group. -/
theorem splitAt_ne_nil (items : List α) : splitAt isDelimiter items ≠ [] := by
  rw [splitAt_eq_splitOnP]
  exact List.splitOnP_ne_nil isDelimiter items

/-- A delimiter parts the groups before it from those behind it. -/
theorem splitAt_append_cons {delimiter : α} (parts : isDelimiter delimiter = true)
    (before after : List α) :
    splitAt isDelimiter (before ++ delimiter :: after) =
      splitAt isDelimiter before ++ splitAt isDelimiter after := by
  simp only [splitAt_eq_splitOnP]
  exact List.splitOnP_append_cons before after parts

/-- Items without a delimiter are one group. -/
theorem splitAt_whole {items : List α} (whole : ∀ item ∈ items, isDelimiter item = false) :
    splitAt isDelimiter items = [items] := by
  rw [splitAt_eq_splitOnP]
  exact List.splitOnP_eq_singleton whole

end Pieces

section Unlimited

variable {α : Type} {isDelimiter : α → Bool}

/-- An item behind a list that is no delimiter lengthens the last group. -/
theorem splitAtMost_concat {item : α} (plain : isDelimiter item = false) (items : List α) :
    ∃ groups last, splitAtMost isDelimiter none items = groups ++ [last] ∧
      splitAtMost isDelimiter none (items ++ [item]) = groups ++ [last ++ [item]] := by
  -- Over the items in front: the last group is the same whatever the groups before it.
  induction items with
  | nil => exact ⟨[], [], rfl, by simp [splitAtMost, plain]⟩
  | cons first items ih =>
    obtain ⟨groups, last, split, longer⟩ := ih
    cases cut : isDelimiter first with
    | true => exact ⟨[] :: groups, last, by simp [splitAtMost, cut, split],
        by simp [splitAtMost, cut, longer]⟩
    | false =>
      cases groups with
      | nil => exact ⟨[], first :: last, by simp [splitAtMost, cut, split],
          by simp [splitAtMost, cut, longer]⟩
      | cons group groups => exact ⟨(first :: group) :: groups, last,
          by simp [splitAtMost, cut, split], by simp [splitAtMost, cut, longer]⟩

/-- Groups of pictures are pictures of groups. -/
theorem splitAtMost_map {β : Type} (isDelimiter : β → Bool) (view : α → β) (items : List α) :
    splitAtMost isDelimiter none (items.map view) =
      (splitAtMost (isDelimiter ∘ view) none items).map (List.map view) := by
  -- Over the items: each cuts or joins as its image does.
  induction items with
  | nil => rfl
  | cons item items ih =>
    cases cut : isDelimiter (view item) with
    | true => simp [splitAtMost, cut, ih]
    | false =>
      cases split : splitAtMost (isDelimiter ∘ view) none items <;>
        simp [splitAtMost, cut, ih, split]

/-- The groups hold the items that are no delimiters, in their order. -/
theorem flatten_splitAtMost (isDelimiter : α → Bool) (items : List α) :
    (splitAtMost isDelimiter none items).flatten = items.filter fun item => !isDelimiter item := by
  -- Over the items: a delimiter stands in no group, every other item in one.
  induction items with
  | nil => rfl
  | cons item items ih =>
    cases cut : isDelimiter item with
    | true => simp [splitAtMost, cut, ih]
    | false =>
      cases split : splitAtMost isDelimiter none items <;>
        simp_all [splitAtMost]

/-- Without a limit no group holds a delimiter. -/
theorem plain_of_mem_splitAtMost (isDelimiter : α → Bool) (items : List α) :
    ∀ group ∈ splitAtMost isDelimiter none items, ∀ item ∈ group, isDelimiter item = false := by
  -- The groups together are what is left without the delimiters.
  intro group listed item member
  have kept : item ∈ (splitAtMost isDelimiter none items).flatten :=
    List.mem_flatten.mpr ⟨group, listed, member⟩
  rw [flatten_splitAtMost, List.mem_filter] at kept
  simpa using kept.2

end Unlimited

section Limited

variable {α : Type} {isDelimiter : α → Bool}

/-- Groups and the delimiters between them, one after the other. -/
def rejoin : List (List α) → List α → List α
  -- A delimiter comes behind each group as long as there are both.
  | [], delimiters => delimiters
  | group :: groups, [] => group ++ rejoin groups []
  | group :: groups, delimiter :: delimiters => group ++ delimiter :: rejoin groups delimiters

/-- How many of so many delimiters cut. -/
def cutCount (limit : Option Nat) (count : Nat) : Nat :=
  -- Without a limit all of them do.
  match limit with
  | none => count
  | some most => min most count

/-- There is always a group, with a limit too. -/
theorem splitAtMost_ne_nil (isDelimiter : α → Bool) (limit : Option Nat) (items : List α) :
    splitAtMost isDelimiter limit items ≠ [] := by
  -- Without items there is one empty group.
  cases items with
  | nil => simp [splitAtMost]
  | cons item rest =>
    rw [splitAtMost]
    split
    · simp
    · split <;> simp

/-- A delimiter that the limit allows to cut ends an empty group. -/
theorem splitAtMost_cut {limit : Option Nat} {item : α} (cuts : isDelimiter item = true)
    (left : limit ≠ some 0) (rest : List α) :
    splitAtMost isDelimiter limit (item :: rest) =
      [] :: splitAtMost isDelimiter (limit.map (· - 1)) rest := by
  rw [splitAtMost, if_pos (by simp [cuts, left])]

/-- Any other item joins the next group. -/
theorem splitAtMost_keep {limit : Option Nat} {item : α}
    (stays : isDelimiter item = false ∨ limit = some 0) {rest group : List α}
    {groups : List (List α)} (split : splitAtMost isDelimiter limit rest = group :: groups) :
    splitAtMost isDelimiter limit (item :: rest) = (item :: group) :: groups := by
  rw [splitAtMost, if_neg (by rcases stays with plain | spent <;> simp [*]), split]

/-- What holds of one empty group and is kept by each item holds of all groups of a list. -/
theorem splitAtMost_induction (isDelimiter : α → Bool)
    {motive : Option Nat → List α → List (List α) → Prop}
    (done : ∀ limit, motive limit [] [[]])
    (cut : ∀ limit item rest groups, isDelimiter item = true → limit ≠ some 0 →
      motive (limit.map (· - 1)) rest groups → motive limit (item :: rest) ([] :: groups))
    (keep : ∀ limit item rest group groups, isDelimiter item = false ∨ limit = some 0 →
      splitAtMost isDelimiter limit rest = group :: groups →
      motive limit rest (group :: groups) → motive limit (item :: rest) ((item :: group) :: groups))
    (limit : Option Nat) (items : List α) :
    motive limit items (splitAtMost isDelimiter limit items) := by
  -- An item either cuts, and leaves one cut less, or joins the group that the rest starts with.
  induction items generalizing limit with
  | nil => exact done limit
  | cons item rest ih =>
    by_cases cuts : isDelimiter item = true ∧ limit ≠ some 0
    · rw [splitAtMost_cut cuts.1 cuts.2]
      exact cut limit item rest _ cuts.1 cuts.2 (ih _)
    · have stays : isDelimiter item = false ∨ limit = some 0 := by
        rw [not_and_or, not_not, Bool.not_eq_true] at cuts
        exact cuts
      obtain ⟨group, groups, split⟩ :=
        List.exists_cons_of_ne_nil (splitAtMost_ne_nil isDelimiter limit rest)
      rw [splitAtMost_keep stays split]
      exact keep limit item rest group groups stays split (split ▸ ih limit)

/-- A delimiter that cuts is one of those that the limit allows. -/
theorem cutCount_cut {limit : Option Nat} (left : limit ≠ some 0) (count : Nat) :
    cutCount limit (count + 1) = cutCount (limit.map (· - 1)) count + 1 := by
  -- With cuts left, each delimiter takes one of them.
  cases limit with
  | none => rfl
  | some most =>
    have positive : most ≠ 0 := by simpa using left
    simp only [cutCount, Option.map_some]
    omega

/-- An item that stays in its group does not change how many delimiters cut. -/
theorem cutCount_keep {limit : Option Nat} {item : α}
    (stays : isDelimiter item = false ∨ limit = some 0) (rest : List α) :
    cutCount limit ((item :: rest).countP isDelimiter) =
      cutCount limit (rest.countP isDelimiter) := by
  -- An item that does not cut is no delimiter, or there is no cut left to make.
  rcases stays with plain | rfl
  · rw [List.countP_cons_of_neg (by simp [plain])]
  · simp [cutCount]

/-- As long as a delimiter may cut, only other items stay in their group. -/
theorem plain_of_cutCount {limit : Option Nat} {item : α}
    (stays : isDelimiter item = false ∨ limit = some 0) {count cuts : Nat}
    (left : cutCount limit count = cuts + 1) : isDelimiter item = false := by
  -- As long as cuts are left, only a delimiter would not stay.
  rcases stays with plain | rfl
  · exact plain
  · simp [cutCount] at left

/-- There is one group more than there are delimiters that cut. -/
theorem length_splitAtMost (limit : Option Nat) (items : List α) :
    (splitAtMost isDelimiter limit items).length =
      cutCount limit (items.countP isDelimiter) + 1 := by
  -- Along the items: every cut makes one more group.
  induction limit, items using splitAtMost_induction isDelimiter with
  | done limit => cases limit <;> simp [cutCount]
  | cut limit item rest groups cuts left ih =>
    rw [List.countP_cons_of_pos cuts, cutCount_cut left, List.length_cons, ih]
  | keep limit item rest group groups stays split ih =>
    rw [cutCount_keep stays, ← ih, List.length_cons, List.length_cons]

/-- Of the first groups, those in front of a delimiter that cuts, none holds a delimiter. -/
theorem plain_of_mem_take_splitAtMost (limit : Option Nat) (items : List α) :
    ∀ group ∈ (splitAtMost isDelimiter limit items).take
      (cutCount limit (items.countP isDelimiter)), ∀ item ∈ group, isDelimiter item = false := by
  -- Along the items: all groups but the last one end at a cut.
  induction limit, items using splitAtMost_induction isDelimiter with
  | done limit =>
    intro group listed
    simp [List.mem_singleton.mp (List.mem_of_mem_take listed)]
  | cut limit item rest groups cuts left ih =>
    rw [List.countP_cons_of_pos cuts, cutCount_cut left, List.take_succ_cons]
    exact List.forall_mem_cons.mpr ⟨by simp, ih⟩
  | keep limit item rest group groups stays split ih =>
    rw [cutCount_keep stays]
    cases count : cutCount limit (rest.countP isDelimiter) with
    | zero => simp
    | succ cuts =>
      rw [count, List.take_succ_cons, List.forall_mem_cons] at ih
      rw [List.take_succ_cons, List.forall_mem_cons, List.forall_mem_cons]
      exact ⟨⟨plain_of_cutCount stays count, ih.1⟩, ih.2⟩

/-- An item in front of the first group is in front of all. -/
theorem rejoin_cons (item : α) (group : List α) (groups : List (List α)) (delimiters : List α) :
    rejoin ((item :: group) :: groups) delimiters =
      item :: rejoin (group :: groups) delimiters := by
  cases delimiters <;> rfl

/-- An item that stays in its group is none of the delimiters that cut. -/
theorem take_filter_keep {limit : Option Nat} {item : α}
    (stays : isDelimiter item = false ∨ limit = some 0) (rest : List α) :
    ((item :: rest).filter isDelimiter).take (cutCount limit ((item :: rest).countP isDelimiter)) =
      (rest.filter isDelimiter).take (cutCount limit (rest.countP isDelimiter)) := by
  -- The item adds neither a delimiter nor a cut.
  rw [cutCount_keep stays]
  rcases stays with plain | rfl
  · rw [List.filter_cons_of_neg (by simp [plain])]
  · simp [cutCount]

/-- The groups with the delimiters that cut between them are the list. -/
theorem rejoin_splitAtMost (isDelimiter : α → Bool) (limit : Option Nat) (items : List α) :
    rejoin (splitAtMost isDelimiter limit items)
      ((items.filter isDelimiter).take (cutCount limit (items.countP isDelimiter))) = items := by
  -- Along the items: each cut puts its delimiter back between two groups.
  induction limit, items using splitAtMost_induction isDelimiter with
  | done limit => simp [rejoin]
  | cut limit item rest groups cuts left ih =>
    rw [List.countP_cons_of_pos cuts, cutCount_cut left, List.filter_cons_of_pos cuts,
      List.take_succ_cons, rejoin, ih, List.nil_append]
  | keep limit item rest group groups stays split ih =>
    rw [take_filter_keep stays, rejoin_cons, ih]

/-- Without a limit every delimiter stands between two groups. -/
theorem rejoin_splitAtMost_none (items : List α) :
    rejoin (splitAtMost isDelimiter none items) (items.filter isDelimiter) = items := by
  have whole := rejoin_splitAtMost isDelimiter none items
  rwa [cutCount, List.countP_eq_length_filter, List.take_length] at whole

/-- A limit keeps the groups behind the last delimiter that cuts in one. -/
theorem splitAtMost_eq_take (limit : Option Nat) (items : List α) :
    splitAtMost isDelimiter limit items =
      (splitAtMost isDelimiter none items).take (cutCount limit (items.countP isDelimiter)) ++
        [rejoin
          ((splitAtMost isDelimiter none items).drop (cutCount limit (items.countP isDelimiter)))
          ((items.filter isDelimiter).drop (cutCount limit (items.countP isDelimiter)))] := by
  induction limit, items using splitAtMost_induction isDelimiter with
  | done limit => cases limit <;> simp [splitAtMost, cutCount, rejoin]
  | cut limit item rest groups cuts left ih =>
    rw [splitAtMost_cut cuts (by simp), Option.map_none, List.countP_cons_of_pos cuts,
      cutCount_cut left, List.filter_cons_of_pos cuts, List.take_succ_cons, List.drop_succ_cons,
      List.drop_succ_cons, List.cons_append, ← ih]
  | keep limit item rest group groups stays split ih =>
    rw [cutCount_keep stays]
    cases count : cutCount limit (rest.countP isDelimiter) with
    | zero =>
      -- All is one group, before the item came in front and after.
      simp only [count, List.take_zero, List.drop_zero, List.nil_append,
        rejoin_splitAtMost_none] at ih ⊢
      obtain ⟨rfl, rfl⟩ := List.cons.inj ih
      rfl
    | succ cuts =>
      have plain := plain_of_cutCount stays count
      obtain ⟨first, others, whole⟩ :=
        List.exists_cons_of_ne_nil (splitAtMost_ne_nil isDelimiter none rest)
      rw [count, whole, List.take_succ_cons, List.drop_succ_cons, List.cons_append] at ih
      obtain ⟨rfl, rfl⟩ := List.cons.inj ih
      rw [splitAtMost_keep (.inl plain) whole, List.filter_cons_of_neg (by simp [plain]),
        List.take_succ_cons, List.drop_succ_cons, List.cons_append]

end Limited

section Separators

variable {α : Type} [BEq α] [LawfulBEq α] {separator : α} {items : List α} {pieces : List (List α)}

/-- The pieces of a list are the only ones that make it up and hold no separator. -/
theorem splitAt_eq_iff :
    splitAt (· == separator) items = pieces ↔
      pieces ≠ [] ∧ (∀ piece ∈ pieces, separator ∉ piece) ∧
        items = [separator].intercalate pieces := by
  -- The library knows both ways of putting pieces together and taking them apart.
  rw [splitAt_eq_splitOnP, ← List.splitOn_eq_splitOnP]
  constructor
  · rintro rfl
    refine ⟨?_, ?_, (List.intercalate_splitOn separator).symm⟩
    · rw [List.splitOn_eq_splitOnP]
      exact List.splitOnP_ne_nil _ items
    · rw [List.splitOn_eq_splitOnP, ← splitAt_eq_splitOnP]
      intro piece listed member
      simpa using plain_of_mem_splitAtMost _ items piece listed separator member
  · rintro ⟨present, whole, rfl⟩
    exact List.splitOn_intercalate separator whole present

/-- There are several pieces exactly where there is a separator. -/
theorem two_le_length_splitAt :
    2 ≤ (splitAt (· == separator) items).length ↔ separator ∈ items := by
  -- Two groups need a cut, and every separator makes one.
  rw [splitAt, length_splitAtMost, cutCount, Nat.succ_le_succ_iff, Nat.succ_le_iff,
    List.countP_pos_iff]
  simp

omit [BEq α] [LawfulBEq α] in
/-- What joined lists hold is in the text between them or in one of them. -/
theorem mem_intercalate {item : α} {between : List α} (listed : item ∈ between.intercalate pieces) :
    item ∈ between ∨ ∃ piece ∈ pieces, item ∈ piece := by
  -- Over the pieces, with what stands between each two.
  induction pieces with
  | nil => simp at listed
  | cons first others ih =>
    cases others with
    | nil => exact .inr ⟨first, by simp, by simpa using listed⟩
    | cons second others =>
      rw [List.intercalate_cons_cons, List.mem_append, List.mem_append] at listed
      rcases listed with (inFirst | inBetween) | later
      · exact .inr ⟨first, by simp, inFirst⟩
      · exact .inl inBetween
      · rcases ih later with inBetween | ⟨piece, further, inPiece⟩
        · exact .inl inBetween
        · exact .inr ⟨piece, List.mem_cons_of_mem first further, inPiece⟩

end Separators

end PhpOutline
