import PhpOutline.Token.Tokenize

/-! No rule takes more characters than there are, so every lexeme lies inside its text. -/

namespace PhpOutline

/-- A run is no longer than the text it opens. -/
theorem runLength_le (test : Char → Bool) (chars : List Char) :
    runLength test chars ≤ chars.length := by
  -- Over the characters: each one taken is one of them.
  induction chars with
  | nil => simp [runLength]
  | cons char rest ih =>
    simp only [runLength, List.length_cons]
    split <;> omega

/-- A line break is no longer than the text it opens. -/
theorem lineBreakLength_le (chars : List Char) : lineBreakLength chars ≤ chars.length := by
  unfold lineBreakLength
  split <;> simp

/-- The tag that leaves code is no longer than the text it opens. -/
theorem closeTagLength_le (chars : List Char) : closeTagLength chars ≤ chars.length := by
  unfold closeTagLength
  split
  · -- The two characters of the tag come first, and the break is measured after them.
    rename_i rest
    have after := lineBreakLength_le rest
    simp only [List.length_cons]
    omega
  · simp

/-- White space is no longer than the text it opens. -/
theorem whitespaceLength_le (chars : List Char) : whitespaceLength chars ≤ chars.length :=
  runLength_le isBlank chars

/-- The tail of a comment is no longer than the text it opens. -/
theorem commentTailLength_le (chars : List Char) : commentTailLength chars ≤ chars.length := by
  -- An unclosed comment takes everything, and a closed one stops at its star and slash.
  fun_induction commentTailLength chars with
  | case1 => simp
  | case2 char rest _ ih =>
    simp only [List.length_cons]
    omega
  | case3 => simp

/-- A documentation comment is no longer than the text it opens. -/
theorem docCommentLength_le (chars : List Char) : docCommentLength chars ≤ chars.length := by
  -- Four characters open it, and the tail is within the rest.
  unfold docCommentLength
  split
  · rename_i char rest
    have tail := commentTailLength_le rest
    simp only [List.length_cons]
    split <;> omega
  · simp

/-- A comment between slash-star and star-slash is no longer than the text it opens. -/
theorem blockCommentLength_le (chars : List Char) : blockCommentLength chars ≤ chars.length := by
  -- Two characters open it, and the tail is within the rest.
  unfold blockCommentLength
  split
  · rename_i rest
    have tail := commentTailLength_le rest
    simp only [List.length_cons]
    omega
  · simp

/-- The mark of an attribute group is no longer than the text it opens. -/
theorem attributeLength_le (chars : List Char) : attributeLength chars ≤ chars.length := by
  unfold attributeLength
  split <;> simp

/-- The rest of a line is no longer than the text it opens. -/
theorem lineTailLength_le (chars : List Char) : lineTailLength chars ≤ chars.length := by
  -- The line feed is only counted where a character is left for it.
  have body := runLength_le (· != '\n') chars
  simp only [lineTailLength]
  split <;> omega

/-- A comment that ends with its line is no longer than the text it opens. -/
theorem lineCommentLength_le (chars : List Char) : lineCommentLength chars ≤ chars.length := by
  -- One or two characters open it, and the tail is within the rest.
  unfold lineCommentLength
  split
  · rename_i rest
    have tail := lineTailLength_le rest
    simp only [List.length_cons]
    omega
  · rename_i rest
    have tail := lineTailLength_le rest
    simp only [List.length_cons]
    omega
  · simp

/-- A word is no longer than the text it opens. -/
theorem wordLength_le (chars : List Char) : wordLength chars ≤ chars.length := by
  -- One character starts it, and the run is within the rest.
  unfold wordLength
  split
  · rename_i char rest
    have run := runLength_le isWordChar rest
    simp only [List.length_cons]
    split <;> omega
  · simp

/-- A variable is no longer than the text it opens. -/
theorem variableLength_le (chars : List Char) : variableLength chars ≤ chars.length := by
  -- The sign stands before a word, which is within the rest.
  unfold variableLength
  split
  · rename_i rest
    have word := wordLength_le rest
    simp only [List.length_cons]
    split <;> omega
  · simp

/-- Digits are no longer than the text they open. -/
theorem digitsLength_le (chars : List Char) : digitsLength chars ≤ chars.length := by
  -- One digit starts them, and the run is within the rest.
  unfold digitsLength
  split
  · rename_i char rest
    have run := runLength_le (fun next => isDigit next || next == '_') rest
    simp only [List.length_cons]
    split <;> omega
  · simp

/-- An exponent is no longer than the text it opens. -/
theorem exponentLength_le (chars : List Char) : exponentLength chars ≤ chars.length := by
  -- Digits are required after the sign, so the sign is a character of the text.
  have after : ∀ (rest : List Char) (sign : Nat),
      (if 0 < runLength isDigit (rest.drop sign) then
        1 + sign + runLength isDigit (rest.drop sign) else 0) ≤ rest.length + 1 := by
    intro rest sign
    have digits := runLength_le isDigit (rest.drop sign)
    rw [List.length_drop] at digits
    split <;> omega
  unfold exponentLength
  split
  · rename_i char rest
    simp only [List.length_cons]
    split
    · exact after rest _
    · simp
  · simp

/-- A point with its digits is no longer than the text it opens. -/
theorem fractionLength_le (chars : List Char) : fractionLength chars ≤ chars.length := by
  -- The point stands before digits, which are within the rest.
  unfold fractionLength
  split
  · rename_i rest
    have digits := digitsLength_le rest
    simp only [List.length_cons]
    split <;> omega
  · simp

/-- A number with a fraction or an exponent is no longer than the text it opens. -/
theorem decimalLength_le (chars : List Char) : decimalLength chars ≤ chars.length := by
  -- Each part is measured in what the parts before it leave.
  have whole := digitsLength_le chars
  have fraction := fractionLength_le (chars.drop (digitsLength chars))
  have exponent := exponentLength_le (chars.drop (digitsLength chars))
  have both := exponentLength_le
    (chars.drop (digitsLength chars + fractionLength (chars.drop (digitsLength chars))))
  simp only [List.length_drop] at fraction exponent both
  simp only [decimalLength]
  split
  · omega
  · split <;> omega

/-- A whole number is no longer than the text it opens. -/
theorem integerLength_le (chars : List Char) : integerLength chars ≤ chars.length := by
  -- Behind the letter of a base a run of its digits, else digits from the start.
  have digits := digitsLength_le chars
  unfold integerLength
  split
  · rename_i base rest
    have hexadecimal := runLength_le isHexadecimal rest
    have binary := runLength_le isBinary rest
    simp only [List.length_cons] at digits ⊢
    split
    · omega
    · split <;> omega
  · exact digits

/-- The tail of a string is no longer than the text it opens. -/
theorem stringTailLength_le (quoteMark : Char) (chars : List Char) :
    stringTailLength quoteMark chars ≤ chars.length := by
  -- A backslash counts itself and the character it takes along.
  fun_induction stringTailLength quoteMark chars with
  | case1 escaped rest tail _ ih =>
    simp only [List.length_cons]
    omega
  | case2 => omega
  | case3 => simp
  | case4 => omega
  | case5 char rest _ _ _ tail _ ih =>
    simp only [List.length_cons]
    omega
  | case6 => omega
  | case7 => simp

/-- A string is no longer than the text it opens. -/
theorem stringLength_le (chars : List Char) : stringLength chars ≤ chars.length := by
  -- The quote stands before the tail, which is within the rest.
  unfold stringLength
  split
  · rename_i char rest
    have tail := stringTailLength_le char rest
    simp only [List.length_cons]
    split
    · split <;> omega
    · simp
  · simp

/-- A cast is no longer than the text it opens. -/
theorem castLength_le (chars : List Char) : castLength chars ≤ chars.length := by
  -- The closing parenthesis stands after the type and its padding, so all of it is text.
  unfold castLength
  split
  · rename_i rest
    simp only
    split
    · rename_i left closed
      have lengths := congrArg List.length closed
      simp only [List.length_drop, List.length_cons] at lengths ⊢
      split <;> omega
    · simp
  · simp

/-- An operator is no longer than the text it opens. -/
theorem operatorLength_le (chars : List Char) : operatorLength chars ≤ chars.length := by
  -- An operator is only found where its characters open the text.
  unfold operatorLength
  split
  · rename_i operator found
    have opens := List.find?_some found
    rw [List.isPrefixOf_iff_prefix] at opens
    have shorter := opens.length_le
    rwa [String.length_toList] at shorter
  · simp

/-- A backslash is no longer than the text it opens. -/
theorem separatorLength_le (chars : List Char) : separatorLength chars ≤ chars.length := by
  unfold separatorLength
  split <;> simp

/-- The tag that enters code is no longer than the text it opens. -/
theorem openTagLength_le (chars : List Char) : openTagLength chars ≤ chars.length := by
  -- Every length that is read was matched character by character.
  unfold openTagLength
  split
  · simp
  · split
    · split
      · simp
      · split <;> simp
      · simp
    · simp
  · simp

/-- No rule for code takes more than there is. -/
theorem lexicalRules_length_le (chars : List Char) {rule : LexicalRule}
    (listed : rule ∈ lexicalRules) : rule.length chars ≤ chars.length := by
  -- Each of the fourteen rules has its own bound.
  simp only [lexicalRules, List.mem_cons, List.not_mem_nil, or_false] at listed
  rcases listed with rfl | rfl | rfl | rfl | rfl | rfl | rfl | rfl | rfl | rfl | rfl | rfl | rfl |
    rfl
  · exact closeTagLength_le chars
  · exact whitespaceLength_le chars
  · exact docCommentLength_le chars
  · exact blockCommentLength_le chars
  · exact attributeLength_le chars
  · exact lineCommentLength_le chars
  · exact variableLength_le chars
  · exact wordLength_le chars
  · exact decimalLength_le chars
  · exact integerLength_le chars
  · exact stringLength_le chars
  · exact castLength_le chars
  · exact operatorLength_le chars
  · exact separatorLength_le chars

/-- Text outside the tags is no longer than the text it opens. -/
theorem htmlLength_le (chars : List Char) : htmlLength chars ≤ chars.length := by
  -- Over the characters, up to the tag that opens.
  induction chars with
  | nil => simp [htmlLength]
  | cons char rest ih =>
    simp only [htmlLength, List.length_cons]
    split <;> omega

end PhpOutline
