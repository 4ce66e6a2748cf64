import PhpOutline.Proofs.Text.Split
import PhpOutline.Proofs.Text.Trim
import PhpOutline.Proofs.Token.Shape
import PhpOutline.Proofs.Traversal
import PhpOutline.Token.Pattern

/-!
Texts that stand for patterns.

A text is read exactly when it is one member, or at least two with bars between them.
Every pattern that is read can be printed, and what is printed is read as the pattern again.
-/

namespace PhpOutline

/-- A text with nothing around it that stands for a pattern without members of its own. -/
inductive WritesMember : List Char → Pattern → Prop
  /-- A character that is no part of a name stands for itself. -/
  | symbol {char : Char} (visible : isBlank char = false) (apart : isAlphanumeric char = false)
      (plain : char ≠ '_') : WritesMember [char] (.symbol char)
  /-- The conventional name of a kind stands for the kind. -/
  | kind (kind : Kind) : WritesMember kind.name.toList (.typed kind)

/-- A text that stands for a pattern, with white space around it and around its pieces. -/
inductive Writes (text : String) : Pattern → Prop
  | alone {member : Pattern} (written : WritesMember (trimEnds text.toList) member) :
      Writes text member
  /-- A bar can only stand between two pieces. -/
  | several {pieces : List (List Char)} {members : List Pattern}
      (joined : trimEnds text.toList = ['|'].intercalate pieces)
      (whole : ∀ piece ∈ pieces, '|' ∉ piece) (enough : 2 ≤ pieces.length)
      (written : List.Forall₂ (fun piece => WritesMember (trimEnds piece)) pieces members) :
      Writes text (.anyOf members)

mutual

/-- A pattern as text. -/
def Pattern.print : Pattern → String
  -- The members of a set have bars between them.
  | .symbol char => String.singleton char
  | .typed kind => kind.name
  | .anyOf members => "|".intercalate (Pattern.printAll members)

/-- Each pattern of a list as text. -/
def Pattern.printAll : List Pattern → List String
  -- The order stays.
  | [] => []
  | member :: members => member.print :: Pattern.printAll members

end

section Names

/-- Every kind is found by its name. -/
theorem Kind.ofName?_name (kind : Kind) : Kind.ofName? kind.name = some kind := by
  -- No two kinds have one name, so the first of that name is the kind.
  cases kind with
  | word keyword => cases keyword <;> rfl
  | _ => rfl

/-- Only the kind that has a name is found by it. -/
theorem Kind.ofName?_eq_some_iff {name : String} {kind : Kind} :
    Kind.ofName? name = some kind ↔ kind.name = name := by
  -- What is found has the name that was asked for.
  constructor
  · intro found
    simpa using List.find?_some found
  · rintro rfl
    exact Kind.ofName?_name kind

/-- A name has several characters. -/
theorem Kind.two_le_length_name (kind : Kind) : 2 ≤ kind.name.toList.length := by
  -- Kind by kind: no name is a single character.
  cases kind with
  | word keyword => cases keyword <;> decide
  | _ => decide

/-- A name is made of characters that may stand inside a word. -/
theorem Kind.isWordChar_name (kind : Kind) :
    ∀ letter ∈ kind.name.toList, isWordChar letter = true := by
  -- Kind by kind: every name is a word.
  rw [← List.all_eq_true]
  cases kind with
  | word keyword => cases keyword <;> rfl
  | _ => rfl

end Names

section Members

variable {chars : List Char} {member : Pattern}

/-- What stands for a member shows on the page. -/
theorem WritesMember.visible (written : WritesMember chars member) :
    ∀ char ∈ chars, isBlank char = false := by
  cases written with
  | symbol visible => simpa using visible
  | kind kind =>
    intro letter listed
    by_contra blank
    -- White space is no part of a word.
    have inside := kind.isWordChar_name letter listed
    rw [isWordChar_of_isBlank (by simpa using blank)] at inside
    simp at inside

/-- What stands for a member is not empty. -/
theorem WritesMember.ne_nil (written : WritesMember chars member) : chars ≠ [] := by
  -- A character, or a name of at least two.
  cases written with
  | symbol => simp
  | kind kind =>
    rintro absent
    simpa [absent] using kind.two_le_length_name

/-- A bar stands for a member only on its own. -/
theorem WritesMember.eq_bar (written : WritesMember chars member) (listed : '|' ∈ chars) :
    chars = ['|'] := by
  -- No name holds a bar, so the member is the character itself.
  cases written with
  | symbol => rw [List.mem_singleton.mp listed]
  | kind kind =>
    have inside := kind.isWordChar_name _ listed
    simp [show isWordChar '|' = false by decide] at inside

/-- A member is no set. -/
theorem WritesMember.ne_anyOf (written : WritesMember chars member) (members : List Pattern) :
    member ≠ .anyOf members := by
  cases written <;> simp

/-- A member is printed as it is written. -/
theorem WritesMember.toList_print (written : WritesMember chars member) :
    member.print.toList = chars := by
  cases written <;> simp [Pattern.print]

/-- A character stands for itself exactly when it is a symbol. -/
theorem isPatternSymbol_iff {char : Char} :
    isPatternSymbol char = true ↔
      isBlank char = false ∧ isAlphanumeric char = false ∧ char ≠ '_' := by
  simp [isPatternSymbol, and_assoc]

/-- A text other than a lone symbol has to be the name of a kind. -/
theorem Pattern.parseMember_named
    (named : ∀ char, trimEnds chars = [char] → isPatternSymbol char = false) :
    Pattern.parseMember chars =
      match Kind.ofName? (String.ofList (trimEnds chars)) with
      | some kind => .ok (.typed kind)
      | none => .error (.badPattern (quote (String.ofList (trimEnds chars)))) := by
  -- A single character that is no symbol is looked up as a name as well.
  rw [Pattern.parseMember]
  split
  · rename_i char alone
    exact if_neg (by simp [named char alone])
  · rfl

/-- What stands for a member is read as the member. -/
theorem WritesMember.parseMember (written : WritesMember (trimEnds chars) member) :
    Pattern.parseMember chars = .ok member := by
  generalize shape : trimEnds chars = trimmed at written
  cases written with
  | symbol visible apart plain =>
    -- A character that may be written alone is taken for a symbol.
    simp [Pattern.parseMember, shape, isPatternSymbol_iff.mpr ⟨visible, apart, plain⟩]
  | kind kind =>
    -- A name is longer than one character, so it is looked up.
    rw [Pattern.parseMember_named, shape, String.ofList_toList, Kind.ofName?_name]
    intro char alone
    have long := kind.two_le_length_name
    simp [← shape, alone] at long

/-- A text that stands for no member is refused, and the cause quotes it. -/
theorem Pattern.parseMember_refused (unwritten : ∀ member, ¬WritesMember (trimEnds chars) member) :
    Pattern.parseMember chars = .error (.badPattern (quote (String.ofList (trimEnds chars)))) := by
  rw [Pattern.parseMember_named]
  · -- A kind of that name would be written by it.
    cases found : Kind.ofName? (String.ofList (trimEnds chars)) with
    | none => rfl
    | some kind =>
      have written : WritesMember kind.name.toList (.typed kind) := .kind kind
      rw [Kind.ofName?_eq_some_iff.mp found, String.toList_ofList] at written
      exact absurd written (unwritten _)
  · -- And so would a symbol.
    intro char alone
    by_contra symbol
    obtain ⟨visible, apart, plain⟩ := isPatternSymbol_iff.mp (by simpa using symbol)
    have written : WritesMember [char] (.symbol char) := .symbol visible apart plain
    exact unwritten _ (alone ▸ written)

/-- A text is read as a member exactly when it stands for the member. -/
theorem Pattern.parseMember_eq_ok_iff :
    Pattern.parseMember chars = .ok member ↔ WritesMember (trimEnds chars) member := by
  -- A text is read as what it writes, so it suffices that only one member is read.
  refine ⟨fun read => ?_, WritesMember.parseMember⟩
  by_cases written : ∃ member, WritesMember (trimEnds chars) member
  · obtain ⟨other, written⟩ := written
    rw [written.parseMember, Except.ok.injEq] at read
    exact read ▸ written
  · rw [Pattern.parseMember_refused (not_exists.mp written)] at read
    simp at read

end Members

section Ends

/-- Trimming text is trimming by white space. -/
theorem trimEnds_eq_trimmed (chars : List Char) : trimEnds chars = trimmed isBlank chars := rfl

/-- Trimmed text has nothing more to trim. -/
theorem trimEnds_trimEnds (chars : List Char) : trimEnds (trimEnds chars) = trimEnds chars := by
  simp only [trimEnds_eq_trimmed]
  exact trimmed_eq_iff.mpr (trimmed_eq_iff.mp rfl).again

/-- Text without white space has nothing to trim. -/
theorem trimEnds_of_visible {chars : List Char} (visible : ∀ char ∈ chars, isBlank char = false) :
    trimEnds chars = chars := by
  -- A first or last character that is visible is not trimmed.
  rw [trimEnds_eq_trimmed, trimmed_eq_iff]
  exact ⟨[], [], by simp, by simp, fun char first => visible char (List.mem_of_mem_head? first),
    fun char last => visible char (List.mem_of_mem_getLast? last)⟩

/-- Trimming adds no character. -/
theorem mem_of_mem_trimEnds {char : Char} {chars : List Char} (listed : char ∈ trimEnds chars) :
    char ∈ chars := by
  -- Trimming takes parts off the two ends.
  obtain ⟨front, back, split, -⟩ := trimmed_eq_iff.mp (trimEnds_eq_trimmed chars).symm
  rw [split]
  simp [listed]

end Ends

section Sets

variable {text : String} {pattern : Pattern}

/-- Whether bars part a text, as a lone bar does not. -/
def IsParted (text : String) : Prop :=
  -- White space around a lone bar does not count.
  '|' ∈ trimEnds text.toList ∧ (trimEnds text.toList).length ≠ 1

/-- Without a bar that parts it, a text is read as one member. -/
theorem Pattern.parse_whole (whole : ¬IsParted text) :
    Pattern.parse text = Pattern.parseMember text.toList := by
  -- Without a bar, or with a bar alone, the text is read as one member.
  have trimmed : Pattern.parseMember (trimEnds text.toList) = Pattern.parseMember text.toList := by
    rw [Pattern.parseMember, Pattern.parseMember, trimEnds_trimEnds]
  simp only [IsParted, ne_eq, not_and, not_not] at whole
  rw [Pattern.parse, trimmed]
  split
  · rfl
  · rename_i long
    rw [if_neg (fun bar => long (whole (by simpa using bar)))]

/-- A text with bars that part it is read as the set of its pieces. -/
theorem Pattern.parse_parted (parted : IsParted text) :
    Pattern.parse text =
      ((splitAt (· == '|') (trimEnds text.toList)).mapM Pattern.parseMember).map .anyOf := by
  -- Splitting gives at least one piece, so the members read are not none.
  rw [Pattern.parse, if_neg parted.2, if_pos (by simpa using parted.1)]
  cases read : (splitAt (· == '|') (trimEnds text.toList)).mapM Pattern.parseMember with
  | error cause => rfl
  | ok members =>
    have length := (mapM_eq_ok_iff_forall₂.mp read).length_eq
    cases members with
    | nil => simp [splitAt_ne_nil] at length
    | cons => rfl

/-- Several pieces that stand for members are parted by bars. -/
theorem isParted_of_several {pieces : List (List Char)} {members : List Pattern}
    (joined : trimEnds text.toList = ['|'].intercalate pieces)
    (whole : ∀ piece ∈ pieces, '|' ∉ piece) (enough : 2 ≤ pieces.length)
    (written : List.Forall₂ (fun piece => WritesMember (trimEnds piece)) pieces members) :
    IsParted text := by
  have present := List.ne_nil_of_length_pos (Nat.lt_of_lt_of_le Nat.zero_lt_two enough)
  have cut := splitAt_eq_iff.mpr ⟨present, whole, joined⟩
  have bar : '|' ∈ trimEnds text.toList := two_le_length_splitAt.mp (cut ▸ enough)
  refine ⟨bar, fun alone => ?_⟩
  -- The pieces around a lone bar are empty, and no member is.
  obtain ⟨char, single⟩ := List.length_eq_one_iff.mp alone
  rw [single, List.mem_singleton] at bar
  rw [single, ← bar] at cut
  obtain rfl : [[], []] = pieces := cut
  obtain _ | ⟨first, -⟩ := written
  exact first.ne_nil rfl

/-- Without a bar that parts it, a text only stands for one member. -/
theorem writes_whole_iff (whole : ¬IsParted text) :
    Writes text pattern ↔ WritesMember (trimEnds text.toList) pattern := by
  -- Two members or more would be written with a bar between them.
  refine ⟨fun written => ?_, .alone⟩
  cases written with
  | alone written => exact written
  | several joined free enough written =>
    exact absurd (isParted_of_several joined free enough written) whole

/-- A text with bars that part it only stands for the set of its pieces. -/
theorem writes_parted_iff (parted : IsParted text) :
    Writes text pattern ↔ ∃ members, pattern = .anyOf members ∧
      List.Forall₂ (fun piece => WritesMember (trimEnds piece))
        (splitAt (· == '|') (trimEnds text.toList)) members := by
  constructor
  · rintro (written | ⟨joined, whole, enough, written⟩)
    · -- Only the bar itself is a member that holds a bar, and it is not parted.
      exact absurd (by rw [written.eq_bar parted.1]; rfl) parted.2
    · -- The pieces are those that splitting at the bars gives.
      have present := List.ne_nil_of_length_pos (Nat.lt_of_lt_of_le Nat.zero_lt_two enough)
      rw [splitAt_eq_iff.mpr ⟨present, whole, joined⟩]
      exact ⟨_, rfl, written⟩
  · -- With a bar in it, a text has two pieces or more.
    rintro ⟨members, rfl, written⟩
    obtain ⟨-, whole, joined⟩ :=
      splitAt_eq_iff.mp (Eq.refl (splitAt (· == '|') (trimEnds text.toList)))
    exact .several joined whole (two_le_length_splitAt.mpr parted.1) written

/-- Pieces are read as members exactly when they stand for them, piece by piece. -/
theorem Pattern.mapM_parseMember_eq_ok_iff {pieces : List (List Char)} {members : List Pattern} :
    pieces.mapM Pattern.parseMember = .ok members ↔
      List.Forall₂ (fun piece => WritesMember (trimEnds piece)) pieces members := by
  -- All pieces are read exactly if each one is.
  rw [mapM_eq_ok_iff_forall₂]
  exact ⟨.imp fun _ _ => Pattern.parseMember_eq_ok_iff.mp,
    .imp fun _ _ => Pattern.parseMember_eq_ok_iff.mpr⟩

/-- A text is read exactly as the pattern it stands for. -/
theorem Pattern.parse_eq_ok_iff : Pattern.parse text = .ok pattern ↔ Writes text pattern := by
  -- A text with bars is read piece by piece, any other as one member.
  by_cases parted : IsParted text
  · rw [Pattern.parse_parted parted, writes_parted_iff parted]
    simp only [← Pattern.mapM_parseMember_eq_ok_iff]
    cases (splitAt (· == '|') (trimEnds text.toList)).mapM Pattern.parseMember with
    | error cause => simp [Except.map]
    | ok members => simp [Except.map, eq_comm]
  · rw [Pattern.parse_whole parted, Pattern.parseMember_eq_ok_iff, writes_whole_iff parted]

/-- A text that stands for no pattern is refused for one of its pieces. -/
theorem Pattern.parse_refused (unwritten : ∀ pattern, ¬Writes text pattern) :
    ∃ piece ∈ splitAt (· == '|') (trimEnds text.toList),
      (∀ member, ¬WritesMember (trimEnds piece) member) ∧
        Pattern.parse text =
          .error (.badPattern (quote (String.ofList (trimEnds piece)))) := by
  -- Either one of several pieces is no member, or the text is the only piece.
  by_cases parted : IsParted text
  · cases read : (splitAt (· == '|') (trimEnds text.toList)).mapM Pattern.parseMember with
    | error cause =>
      obtain ⟨piece, listed, fails⟩ := exists_of_mapM_eq_error read
      have refused : ∀ member, ¬WritesMember (trimEnds piece) member := by
        intro member written
        simp [written.parseMember] at fails
      refine ⟨piece, listed, refused, ?_⟩
      rw [Pattern.parse_parted parted, read, ← Pattern.parseMember_refused refused, fails]
      rfl
    | ok members =>
      refine absurd (Pattern.parse_eq_ok_iff.mp ?_) (unwritten (.anyOf members))
      rw [Pattern.parse_parted parted, read]
      rfl
  · have refused : ∀ member, ¬WritesMember (trimEnds text.toList) member :=
      fun member written => unwritten member (.alone written)
    -- A bar that does not part the text is alone, and then it is a symbol.
    have free : '|' ∉ trimEnds text.toList := by
      intro bar
      have alone : (trimEnds text.toList).length = 1 := by
        by_contra long
        exact parted ⟨bar, long⟩
      obtain ⟨char, single⟩ := List.length_eq_one_iff.mp alone
      rw [single, List.mem_singleton] at bar
      refine refused (.symbol '|') ?_
      rw [single, ← bar]
      exact .symbol (by decide) (by decide) (by decide)
    rw [splitAt_whole fun char listed => beq_eq_false_iff_ne.mpr (ne_of_mem_of_not_mem listed free)]
    refine ⟨_, List.mem_singleton_self _, by rwa [trimEnds_trimEnds], ?_⟩
    rw [Pattern.parse_whole parted, Pattern.parseMember_refused refused, trimEnds_trimEnds]

/-- Members are printed as their pieces without the white space around them. -/
theorem toList_printAll {pieces : List (List Char)} {members : List Pattern}
    (written : List.Forall₂ (fun piece => WritesMember (trimEnds piece)) pieces members) :
    (Pattern.printAll members).map String.toList = pieces.map trimEnds := by
  -- Over the members, each printed as it is written.
  induction written with
  | nil => rfl
  | cons first _ ih => simp [Pattern.printAll, ih, first.toList_print]

/-- A pattern that is read is printed as a text that stands for it. -/
theorem Writes.print (written : Writes text pattern) : Writes pattern.print pattern := by
  rcases written with written | ⟨joined, whole, enough, written⟩
  · refine .alone ?_
    rwa [written.toList_print, trimEnds_trimEnds]
  · rename_i pieces members
    have printed : (Pattern.anyOf members).print.toList =
        ['|'].intercalate (pieces.map trimEnds) := by
      rw [Pattern.print, String.toList_intercalate, toList_printAll written]
      rfl
    -- There is no white space in what is printed, so trimming takes nothing from it.
    have visible : ∀ char ∈ ['|'].intercalate (pieces.map trimEnds), isBlank char = false := by
      intro char listed
      rcases mem_intercalate listed with bar | ⟨piece, found, inPiece⟩
      · rw [List.mem_singleton.mp bar]
        decide
      · obtain ⟨wide, listed, rfl⟩ := List.mem_map.mp found
        obtain ⟨member, -, stands⟩ := exists_of_forall₂_of_mem written listed
        exact stands.visible char inPiece
    have trimmed := printed ▸ trimEnds_of_visible visible
    refine .several (trimmed.trans printed) ?_ (by simpa using enough) ?_
    · intro piece found bar
      obtain ⟨wide, listed, rfl⟩ := List.mem_map.mp found
      exact whole wide listed (mem_of_mem_trimEnds bar)
    · rw [List.forall₂_map_left_iff]
      simpa only [trimEnds_trimEnds] using written

end Sets

/--
A text is read exactly when it stands for a pattern, and any other is refused for one of its pieces.

A set that is read has at least two members, none of which is a set, and a pattern that is read is
read again from the text it is printed as.
-/
theorem parse_accepts_written (text : String) :
    (∀ pattern, Pattern.parse text = .ok pattern ↔ Writes text pattern) ∧
    ((∀ pattern, ¬Writes text pattern) →
      ∃ piece ∈ splitAt (· == '|') (trimEnds text.toList),
        (∀ member, ¬WritesMember (trimEnds piece) member) ∧
          Pattern.parse text =
            .error (.badPattern (quote (String.ofList (trimEnds piece))))) ∧
    (∀ members, Pattern.parse text = .ok (.anyOf members) →
      2 ≤ members.length ∧ ∀ member ∈ members, ∀ inner, member ≠ .anyOf inner) ∧
    ∀ pattern, Pattern.parse text = .ok pattern →
      Pattern.parse pattern.print = .ok pattern := by
  refine ⟨fun pattern => Pattern.parse_eq_ok_iff, Pattern.parse_refused, ?_, ?_⟩
  · -- A choice is written in parts, and none of its members is a choice.
    intro members read
    rw [Pattern.parse_eq_ok_iff] at read
    rcases read with written | ⟨-, -, enough, written⟩
    · exact absurd rfl (written.ne_anyOf members)
    · refine ⟨written.length_eq ▸ enough, fun member listed inner => ?_⟩
      obtain ⟨piece, -, stands⟩ := exists_of_forall₂_of_mem written.flip listed
      exact stands.ne_anyOf inner
  · -- What is read is printed as something that writes it again.
    intro pattern read
    rw [Pattern.parse_eq_ok_iff] at read ⊢
    exact read.print

/-- Between two bars stands an empty piece, so only a lone bar is a pattern by itself. -/
example : Pattern.parse " | " = .ok (.symbol '|') ∧
    Pattern.parse "||" = .error (.badPattern (quote "")) := ⟨rfl, rfl⟩

end PhpOutline
