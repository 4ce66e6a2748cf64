import PhpOutline.Comment
import PhpOutline.Proofs.Token.Round

/-!
The texts of the comments that the tokenizer makes.

A comment that is not the last token ends with its line or with a star and a slash.
So the last line of a comment can be told from its text alone.
-/

namespace PhpOutline

/-- A text without the line break at its end. -/
def withoutLineBreak (chars : List Char) : List Char :=
  -- A carriage return goes only together with its line feed.
  match chars.reverse with
  | '\n' :: '\r' :: rest => rest.reverse
  | '\n' :: rest => rest.reverse
  | _ => chars

/-- Only the end of a text is taken off. -/
theorem withoutLineBreak_isPrefix (chars : List Char) : withoutLineBreak chars <+: chars := by
  -- Read from the end: a line break of two characters, of one, or none.
  unfold withoutLineBreak
  split
  · rename_i rest ends
    rw [← List.reverse_reverse chars, ends]
    simp
  · rename_i rest _ ends
    rw [← List.reverse_reverse chars, ends]
    simp
  · exact List.prefix_rfl

/-- A comment that is closed before the text ends has a star and a slash at its end. -/
theorem commentTailLength_closed {chars : List Char}
    (closed : commentTailLength chars < chars.length) :
    ∃ inner, chars.take (commentTailLength chars) = inner ++ ['*', '/'] := by
  -- Along the tail, up to the two characters that close it.
  fun_induction commentTailLength chars with
  | case1 rest => exact ⟨[], rfl⟩
  | case2 char rest apart ih =>
    obtain ⟨inner, ends⟩ := ih (by simpa using closed)
    exact ⟨char :: inner, by simp [ends]⟩
  | case3 => simp at closed

/-- A line that ends before the text does has a line feed at its end, and no other one. -/
theorem lineTailLength_closed {chars : List Char} (closed : lineTailLength chars < chars.length) :
    ∃ inner, chars.take (lineTailLength chars) = inner ++ ['\n'] ∧ '\n' ∉ inner := by
  -- Over the characters: the first line feed is the last one taken.
  induction chars with
  | nil => simp [lineTailLength, runLength] at closed
  | cons char rest ih =>
    by_cases ends : char = '\n'
    · subst ends
      exact ⟨[], by simp [lineTailLength, runLength], by simp⟩
    · have step : lineTailLength (char :: rest) = lineTailLength rest + 1 := by
        simp only [lineTailLength, runLength, List.length_cons]
        split_ifs <;> simp_all
      rw [step] at closed ⊢
      obtain ⟨inner, tail, single⟩ := ih (by simpa using closed)
      exact ⟨char :: inner, by simp [tail], by simp [single, Ne.symm ends]⟩

/-- How a comment ends that is followed by something. -/
inductive CommentEnding (text : List Char) : Prop where
  /-- It ends with its line, and does not start with the line break. -/
  | line (first : Char) (inner : List Char) (shape : text = first :: inner ++ ['\n'])
      (single : '\n' ∉ first :: inner) (apart : first ≠ '\r')
      (reads : isLineComment (String.ofList text) = true)
  /-- It ends with a star and a slash. -/
  | block (inner : List Char) (shape : text = inner ++ ['*', '/'])
      (reads : isLineComment (String.ofList text) = false)

/-- A comment of several lines that is closed before the text ends. -/
theorem CommentEnding.of_block (opening rest : List Char)
    (closed : commentTailLength rest < rest.length) :
    CommentEnding (('/' :: '*' :: opening ++ rest).take
      (2 + opening.length + commentTailLength rest)) := by
  -- What is taken is the opening and the tail, and the tail ends in the two closing characters.
  obtain ⟨inner, ends⟩ := commentTailLength_closed closed
  have text : ('/' :: '*' :: opening ++ rest).take (2 + opening.length + commentTailLength rest) =
      '/' :: '*' :: (opening ++ inner) ++ ['*', '/'] := by
    rw [show 2 + opening.length + commentTailLength rest =
      ('/' :: '*' :: opening).length + commentTailLength rest by simp; omega]
    rw [List.take_length_add_append, ends]
    simp
  rw [text]
  refine .block _ rfl ?_
  simp [isLineComment, trimFront, List.isPrefixOf, show isBlank '/' = false by decide]

/-- A comment that ends with its line before the text ends. -/
theorem CommentEnding.of_line (first : Char) (opening rest : List Char)
    (single : '\n' ∉ first :: opening) (apart : first ≠ '\r')
    (reads : ∀ more, isLineComment (String.ofList (first :: opening ++ more)) = true)
    (closed : lineTailLength rest < rest.length) :
    CommentEnding ((first :: opening ++ rest).take (1 + opening.length + lineTailLength rest)) := by
  -- What is taken is the opening and the tail, and the tail ends in a line feed.
  obtain ⟨inner, ends, alone⟩ := lineTailLength_closed closed
  have text : (first :: opening ++ rest).take (1 + opening.length + lineTailLength rest) =
      first :: (opening ++ inner) ++ ['\n'] := by
    rw [show 1 + opening.length + lineTailLength rest =
      (first :: opening).length + lineTailLength rest by simp; omega]
    rw [List.take_length_add_append, ends]
    simp
  rw [text]
  refine .line first (opening ++ inner) rfl ?_ apart ?_
  · rw [← List.cons_append, List.mem_append]
    exact not_or.mpr ⟨single, alone⟩
  · simpa using reads (inner ++ ['\n'])

/-- A comment that does not run to the end of the text is closed. -/
theorem commentEnding_of_length {chars : List Char} {length : List Char → Nat}
    (listed : length ∈ [docCommentLength, blockCommentLength, lineCommentLength])
    (opens : 0 < length chars) (closed : length chars < chars.length) :
    CommentEnding (chars.take (length chars)) := by
  -- The three rules: two open a block, the third opens a line in one of two ways.
  have slash : isBlank '/' = false := by decide
  have hash : isBlank '#' = false := by decide
  simp only [List.mem_cons, List.not_mem_nil, or_false] at listed
  revert opens closed
  rcases listed with rfl | rfl | rfl
  · unfold docCommentLength
    split
    · rename_i char rest
      split
      · intro opens closed
        exact .of_block ['*', char] rest (by simp at closed; omega)
      · simp
    · simp
  · unfold blockCommentLength
    split
    · rename_i rest
      intro opens closed
      exact .of_block [] rest (by simp at closed; omega)
    · simp
  · unfold lineCommentLength
    split
    · rename_i rest
      intro opens closed
      refine .of_line '/' ['/'] rest (by decide) (by decide) (fun more => ?_) ?_
      · simp [isLineComment, trimFront, slash]
      · simp at closed
        omega
    · rename_i rest
      intro opens closed
      refine .of_line '#' [] rest (by decide) (by decide) (fun more => ?_) ?_
      · simp [isLineComment, trimFront, hash]
      · simp at closed
        omega
    · simp

/-- Every comment of a source that is followed by something is closed. -/
theorem commentEnding_of_tokenize {source : String} {before later : List Token}
    {token next : Token} (cut : tokenize source = before ++ token :: next :: later)
    (comment : token.isKind .comment = true ∨ token.isKind .docComment = true) :
    CommentEnding token.text.toList := by
  -- A comment is read in code, and it does not reach the end of the text as a token follows.
  have round := tokenize_round cut
  have coded : modeBehind .html before = .code := by
    rcases comment with plain | doc
    · exact round.mode_eq_code_of_kind plain (by simp [Kind.lengths])
    · exact round.mode_eq_code_of_kind doc (by simp [Kind.lengths])
  rw [coded] at round
  have shorter : token.text.toList.length < (textOf (token :: next :: later)).toList.length := by
    have full := List.length_pos_iff.mpr (tokenize_next_round cut).nonempty
    simp only [textOf_cons, String.toList_append, List.length_append]
    omega
  -- One of the three rules gave its length.
  obtain ⟨length, listed, opens, taken⟩ : ∃ length ∈ [docCommentLength, blockCommentLength,
      lineCommentLength], 0 < length (textOf (token :: next :: later)).toList ∧
        token.text.toList.length = length (textOf (token :: next :: later)).toList := by
    rcases comment with plain | doc
    · obtain ⟨length, listed, found⟩ := round.exists_length plain
      exact ⟨length, by simp [Kind.lengths] at listed ⊢; tauto, found⟩
    · obtain ⟨length, listed, found⟩ := round.exists_length doc
      exact ⟨length, by simp [Kind.lengths] at listed ⊢; tauto, found⟩
  have text : token.text.toList = (textOf (token :: next :: later)).toList.take
      (length (textOf (token :: next :: later)).toList) := by
    rw [← taken]
    exact (List.prefix_iff_eq_take.mp ⟨_, round.text.symm⟩)
  rw [text]
  exact commentEnding_of_length listed opens (by omega)

/-- Taking the line break off a line leaves the front of the line, if that is no carriage return. -/
theorem withoutLineBreak_line {first : Char} (inner : List Char) (apart : first ≠ '\r') :
    ∃ front last, withoutLineBreak (first :: inner ++ ['\n']) = front ++ [last] ∧
      front ++ [last] <+: first :: inner := by
  rcases List.eq_nil_or_concat inner with rfl | ⟨front, last, rfl⟩
  · exact ⟨[], first, by simp [withoutLineBreak, apart], by simp⟩
  · by_cases carriage : last = '\r'
    · subst carriage
      -- What the carriage return leaves is not empty, since the first character stays.
      have kept : first :: front ≠ [] := by simp
      refine ⟨(first :: front).dropLast, (first :: front).getLast kept, ?_, ?_⟩
      · rw [List.dropLast_append_getLast]
        simp [withoutLineBreak]
      · rw [List.dropLast_append_getLast]
        simp
    · exact ⟨first :: front, last, by simp [withoutLineBreak, carriage], by simp⟩

/-- A closed comment ends on the line of its last character that is no line break. -/
theorem Comment.lastLine_ofText {text : String} (ending : CommentEnding text.toList)
    (sort : CommentSort) (line : Nat) :
    ∃ inner last, withoutLineBreak text.toList = inner ++ [last] ∧
      (Comment.ofText sort text line).lastLine = line + inner.count '\n' := by
  cases ending with
  -- A line comment stands on one line, since its only line feed is the one that ends it.
  | line first inner shape single apart reads =>
    rw [String.ofList_toList] at reads
    obtain ⟨front, last, kept, part⟩ := withoutLineBreak_line inner apart
    refine ⟨front, last, by rw [shape, kept], ?_⟩
    have none : '\n' ∉ front := fun listed => single (part.subset (by simp [listed]))
    simp [Comment.ofText, reads, List.count_eq_zero.mpr none]
  -- A block comment ends in its slash, so every line feed lies before its last character.
  | block inner shape reads =>
    rw [String.ofList_toList] at reads
    refine ⟨inner ++ ['*'], '/', by simp [shape, withoutLineBreak], ?_⟩
    simp [Comment.ofText, reads, lineFeeds, shape]

end PhpOutline
