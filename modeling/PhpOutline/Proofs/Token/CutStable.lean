import PhpOutline.Proofs.Token.Lexeme

/-!
No rule looks past what it takes: text further on can be cut off without changing its length.

Most rules read one character after the other, so they are put together from two ways to do that.
The two ways, sums and choices all keep a rule independent of what is cut off.
-/

namespace PhpOutline

/-- A rule whose length stays the same when text behind what it takes is cut off. -/
def CutStable (length : List Char → Nat) : Prop :=
  -- A rule that takes nothing has to go on taking nothing.
  ∀ kept cut, length (kept ++ cut) ≤ kept.length → length kept = length (kept ++ cut)

/-- The length of a character that passes a test and of what a rule takes after it. -/
def charThen (test : Char → Bool) (length : Char → List Char → Nat) : List Char → Nat
  -- The rule may take nothing.
  | [] => 0
  | char :: rest => if test char then 1 + length char rest else 0

/-- The length of a character that passes a test and of what a rule has to take after it. -/
def charThenSome (test : Char → Bool) (length : Char → List Char → Nat) : List Char → Nat
  -- Where the rule takes nothing, the character is not taken either.
  | [] => 0
  | char :: rest => if test char ∧ 0 < length char rest then 1 + length char rest else 0

/-- Nothing is taken of nothing. -/
theorem cutStable_zero : CutStable fun _ => 0 := by
  intro kept cut _
  rfl

/-- A character and a stable rule after it are stable. -/
theorem charThen_cutStable {test : Char → Bool} {length : Char → List Char → Nat}
    (stable : ∀ char, test char = true → CutStable (length char)) :
    CutStable (charThen test length) := by
  -- A first character is left, or nothing is; past it the rest has to be stable.
  intro kept cut fits
  cases kept with
  | nil => simp_all [charThen]
  | cons char rest =>
    by_cases passes : test char = true
    · simp only [List.cons_append, charThen, passes, if_true, List.length_cons] at fits ⊢
      rw [stable char passes rest cut (by omega)]
    · simp [charThen, passes]

/-- A character and a stable rule that has to follow it are stable. -/
theorem charThenSome_cutStable {test : Char → Bool} {length : Char → List Char → Nat}
    (stable : ∀ char, test char = true → CutStable (length char)) :
    CutStable (charThenSome test length) := by
  intro kept cut fits
  cases kept with
  | nil => simp_all [charThenSome]
  | cons char rest =>
    by_cases passes : test char = true
    · -- Whether the rule takes something or nothing, it does the same before the cut.
      have same : length char rest = length char (rest ++ cut) := by
        apply stable char passes
        by_cases taken : 0 < length char (rest ++ cut)
        · simp only [List.cons_append, charThenSome, passes, taken, and_self, if_true,
            List.length_cons] at fits
          omega
        · omega
      simp [charThenSome, same]
    · simp [charThenSome, passes]

/-- Two stable rules of which at most one takes something are stable together. -/
theorem add_cutStable {left right : List Char → Nat} (leftStable : CutStable left)
    (rightStable : CutStable right) : CutStable fun chars => left chars + right chars := by
  -- A sum that fits leaves room for both parts.
  intro kept cut fits
  simp only at fits ⊢
  rw [leftStable kept cut (by omega), rightStable kept cut (by omega)]

/-- A run in a text that was cut off goes on as far as the text does. -/
theorem runLength_kept (test : Char → Bool) (kept cut : List Char) :
    runLength test kept = min (runLength test (kept ++ cut)) kept.length := by
  -- Over the kept characters: the run goes on as in the whole text until the cut.
  induction kept with
  | nil => simp [runLength]
  | cons char rest ih =>
    simp only [List.cons_append, runLength, List.length_cons]
    split
    · rw [ih]
      omega
    · simp

/-- A run does not depend on what follows it. -/
theorem runLength_cutStable (test : Char → Bool) : CutStable (runLength test) := by
  -- A run that fits ends before the cut, so the minimum is the run.
  intro kept cut fits
  rw [runLength_kept test kept cut]
  omega

/-- A line break is a line feed, alone or behind a carriage return. -/
theorem lineBreakLength_eq : lineBreakLength = fun chars =>
    charThenSome (· == '\r') (fun _ => charThen (· == '\n') fun _ _ => 0) chars +
      charThen (· == '\n') (fun _ _ => 0) chars := by
  -- The two line breaks; in any other text neither part reads anything.
  funext chars
  unfold lineBreakLength
  split
  · simp [charThenSome, charThen]
  · simp [charThenSome, charThen]
  · rcases chars with _ | ⟨first, _ | ⟨second, rest⟩⟩ <;> simp_all [charThenSome, charThen]

/-- A line break does not depend on what follows it. -/
theorem lineBreakLength_cutStable : CutStable lineBreakLength := by
  -- Both parts look at single characters only.
  rw [lineBreakLength_eq]
  refine add_cutStable (charThenSome_cutStable fun _ _ => ?_) ?_
  all_goals exact charThen_cutStable fun _ _ => cutStable_zero

/-- The tag that leaves code is two characters and a line break. -/
theorem closeTagLength_eq : closeTagLength =
    charThenSome (· == '?') fun _ => charThen (· == '>') fun _ => lineBreakLength := by
  -- The two characters of the tag; any other text, or a shorter one, is not read.
  funext chars
  unfold closeTagLength
  split
  · simp [charThenSome, charThen]
    grind
  · rcases chars with _ | ⟨first, _ | ⟨second, rest⟩⟩ <;> simp_all [charThenSome, charThen]

/-- The tag that leaves code does not depend on what follows it. -/
theorem closeTagLength_cutStable : CutStable closeTagLength := by
  rw [closeTagLength_eq]
  exact charThenSome_cutStable fun _ _ => charThen_cutStable fun _ _ => lineBreakLength_cutStable

/-- The tail of a comment does not depend on what follows it. -/
theorem commentTailLength_cutStable : CutStable commentTailLength := by
  intro kept cut fits
  -- The induction is on the kept text, which holds the star and slash if the tail fits into it.
  fun_induction commentTailLength kept with
  | case1 => simp [commentTailLength]
  | case2 char rest unclosed ih =>
    rw [List.cons_append] at fits ⊢
    by_cases closed : ∃ more, char = '*' ∧ rest ++ cut = '/' :: more
    · -- A star at the cut would only be closed by a slash behind the cut.
      obtain ⟨more, rfl, slash⟩ := closed
      cases rest with
      | nil => simp_all [commentTailLength]
      | cons next rest => simp_all
    · have step : commentTailLength (char :: (rest ++ cut)) = commentTailLength (rest ++ cut) + 1 :=
        commentTailLength.eq_2 _ _ fun more star slash => closed ⟨more, star, slash⟩
      rw [step, List.length_cons] at fits
      rw [step, ih (by omega)]
  | case3 => simp_all

/-- A documentation comment is four characters and the tail of a comment. -/
theorem docCommentLength_eq : docCommentLength =
    charThenSome (· == '/') fun _ => charThenSome (· == '*') fun _ =>
      charThenSome (· == '*') fun _ => charThen isBlank fun _ => commentTailLength := by
  funext chars
  unfold docCommentLength
  split
  · simp [charThenSome, charThen]
    grind
  · -- The rule looks at four characters, and only a list that has them leaves something to say.
    rcases chars with _ | ⟨first, _ | ⟨second, _ | ⟨third, _ | ⟨fourth, rest⟩⟩⟩⟩ <;>
      simp_all [charThenSome, charThen]
    grind

/-- A documentation comment does not depend on what follows it. -/
theorem docCommentLength_cutStable : CutStable docCommentLength := by
  -- Three marks and a character are read before the tail.
  rw [docCommentLength_eq]
  exact charThenSome_cutStable fun _ _ => charThenSome_cutStable fun _ _ =>
    charThenSome_cutStable fun _ _ => charThen_cutStable fun _ _ => commentTailLength_cutStable

/-- A comment is two characters and its tail. -/
theorem blockCommentLength_eq : blockCommentLength =
    charThenSome (· == '/') fun _ => charThen (· == '*') fun _ => commentTailLength := by
  -- The two marks of a block; any other text, or a shorter one, is not read.
  funext chars
  unfold blockCommentLength
  split
  · simp [charThenSome, charThen]
    grind
  · rcases chars with _ | ⟨first, _ | ⟨second, rest⟩⟩ <;> simp_all [charThenSome, charThen]

/-- A comment between slash-star and star-slash does not depend on what follows it. -/
theorem blockCommentLength_cutStable : CutStable blockCommentLength := by
  rw [blockCommentLength_eq]
  exact charThenSome_cutStable fun _ _ => charThen_cutStable fun _ _ => commentTailLength_cutStable

/-- The mark of an attribute group is two characters. -/
theorem attributeLength_eq : attributeLength =
    charThenSome (· == '#') fun _ => charThen (· == '[') fun _ _ => 0 := by
  -- The two marks; any other text, or a shorter one, is not read.
  funext chars
  unfold attributeLength
  split
  · simp [charThenSome, charThen]
  · rcases chars with _ | ⟨first, _ | ⟨second, rest⟩⟩ <;> simp_all [charThenSome, charThen]

/-- The mark of an attribute group does not depend on what follows it. -/
theorem attributeLength_cutStable : CutStable attributeLength := by
  rw [attributeLength_eq]
  exact charThenSome_cutStable fun _ _ => charThen_cutStable fun _ _ => cutStable_zero

/-- The rest of a line does not depend on what follows it. -/
theorem lineTailLength_cutStable : CutStable lineTailLength := by
  intro kept cut fits
  have body := runLength_kept (· != '\n') kept cut
  have bound := runLength_le (· != '\n') (kept ++ cut)
  simp only [lineTailLength, List.length_append] at bound fits ⊢
  split at fits
  · -- The line feed is one of the kept characters.
    rw [if_pos (by omega), if_pos (by omega)]
    omega
  · -- The line ends with the text, so nothing was cut off.
    have nothing : cut.length = 0 := by omega
    rw [if_neg (by omega), if_neg (by omega)]
    omega

/-- A comment that ends with its line opens with two slashes or a hash. -/
theorem lineCommentLength_eq : lineCommentLength = fun chars =>
    charThenSome (· == '/') (fun _ => charThen (· == '/') fun _ => lineTailLength) chars +
      charThen (· == '#') (fun _ => lineTailLength) chars := by
  -- The two slashes, the hash, and texts that start with neither.
  funext chars
  unfold lineCommentLength
  split
  · simp [charThenSome, charThen]
    grind
  · simp [charThenSome, charThen]
  · rcases chars with _ | ⟨first, _ | ⟨second, rest⟩⟩ <;> simp_all [charThenSome, charThen]

/-- A comment that ends with its line does not depend on what follows it. -/
theorem lineCommentLength_cutStable : CutStable lineCommentLength := by
  -- Either way the rest of the line follows.
  rw [lineCommentLength_eq]
  refine add_cutStable (charThenSome_cutStable fun _ _ => ?_) ?_
  all_goals exact charThen_cutStable fun _ _ => lineTailLength_cutStable

/-- A word is one character that opens it and a run. -/
theorem wordLength_eq : wordLength = charThen opensWord fun _ => runLength isWordChar := by
  funext chars
  cases chars <;> rfl

/-- A word does not depend on what follows it. -/
theorem wordLength_cutStable : CutStable wordLength := by
  rw [wordLength_eq]
  exact charThen_cutStable fun _ _ => runLength_cutStable isWordChar

/-- A variable is a dollar sign and a word. -/
theorem variableLength_eq : variableLength = charThenSome (· == '$') fun _ => wordLength := by
  -- The dollar sign, or a text that does not start with it.
  funext chars
  unfold variableLength
  split
  · simp [charThenSome]
  · rcases chars with _ | ⟨first, rest⟩ <;> simp_all [charThenSome]

/-- A variable does not depend on what follows it. -/
theorem variableLength_cutStable : CutStable variableLength := by
  rw [variableLength_eq]
  exact charThenSome_cutStable fun _ _ => wordLength_cutStable

/-- Digits in a text that was cut off go on as far as the text does. -/
theorem digitsLength_kept (kept cut : List Char) :
    digitsLength kept = min (digitsLength (kept ++ cut)) kept.length := by
  -- Behind the first digit it is a run of digits and underscores.
  cases kept with
  | nil => simp [digitsLength]
  | cons char rest =>
    have run := runLength_kept (fun next => isDigit next || next == '_') rest cut
    simp only [List.cons_append, digitsLength, List.length_cons]
    split <;> omega

/-- Digits do not depend on what follows them. -/
theorem digitsLength_cutStable : CutStable digitsLength := by
  -- Digits that fit end before the cut.
  intro kept cut fits
  rw [digitsLength_kept kept cut]
  omega

/-- A point and its digits are a character and what has to follow it. -/
theorem fractionLength_eq : fractionLength = charThenSome (· == '.') fun _ => digitsLength := by
  -- The point, or a text that does not start with it.
  funext chars
  unfold fractionLength
  split
  · simp [charThenSome]
  · rcases chars with _ | ⟨first, rest⟩ <;> simp_all [charThenSome]

/-- A point with its digits does not depend on what follows it. -/
theorem fractionLength_cutStable : CutStable fractionLength := by
  rw [fractionLength_eq]
  exact charThenSome_cutStable fun _ _ => digitsLength_cutStable

/-- A sign is no digit. -/
theorem isDigit_sign {char : Char} (sign : (char == '+' || char == '-') = true) :
    isDigit char = false := by
  simp only [Bool.or_eq_true, beq_iff_eq] at sign
  rcases sign with rfl | rfl <;> decide

/-- An exponent is its letter and digits, with or without a sign. -/
theorem exponentLength_eq : exponentLength =
    charThenSome (fun char => char == 'e' || char == 'E') fun _ rest =>
      charThenSome (fun char => char == '+' || char == '-') (fun _ => runLength isDigit) rest +
        runLength isDigit rest := by
  funext chars
  rcases chars with _ | ⟨letter, _ | ⟨next, rest⟩⟩
  · rfl
  · simp [exponentLength, charThenSome, runLength]
  · simp only [exponentLength, charThenSome]
    -- A sign is no digit, so only the branch with the sign reads past it.
    by_cases sign : (next == '+' || next == '-') = true
    · have plain : runLength isDigit (next :: rest) = 0 := by
        simp [runLength, isDigit_sign sign]
      simp only [sign, plain, if_true, List.drop_succ_cons, List.drop_zero]
      grind
    · simp only [sign]
      grind

/-- An exponent does not depend on what follows it. -/
theorem exponentLength_cutStable : CutStable exponentLength := by
  -- Behind the letter both parts are runs of digits.
  rw [exponentLength_eq]
  refine charThenSome_cutStable fun _ _ => add_cutStable ?_ (runLength_cutStable isDigit)
  exact charThenSome_cutStable fun _ _ => runLength_cutStable isDigit

/-- Dropping kept characters leaves what was cut off in place. -/
theorem drop_kept {count : Nat} {kept : List Char} (cut : List Char)
    (within : count ≤ kept.length) :
    (kept ++ cut).drop count = kept.drop count ++ cut :=
  List.drop_append_of_le_length within

/-- A stable rule takes the same behind some kept characters. -/
theorem CutStable.behind {length : List Char → Nat} (stable : CutStable length) {count : Nat}
    {kept cut : List Char} (fits : count + length ((kept ++ cut).drop count) ≤ kept.length) :
    length (kept.drop count) = length ((kept ++ cut).drop count) := by
  rw [drop_kept cut (by omega)] at fits ⊢
  exact stable _ _ (by rw [List.length_drop]; omega)

/-- A number with a fraction or an exponent does not depend on what follows it. -/
theorem decimalLength_cutStable : CutStable decimalLength := by
  intro kept cut fits
  have whole := digitsLength_kept kept cut
  rcases Nat.lt_or_ge kept.length (digitsLength (kept ++ cut)) with beyond | within
  · -- The digits reach over the cut, so neither text has a point or an exponent behind them here.
    have all : digitsLength kept = kept.length := by omega
    have none : decimalLength (kept ++ cut) = 0 := by
      simp only [decimalLength] at fits ⊢
      grind
    rw [none]
    simp [decimalLength, all, fractionLength, exponentLength]
  · have same : digitsLength kept = digitsLength (kept ++ cut) := by omega
    simp only [decimalLength, same] at fits ⊢
    generalize digitsLength (kept ++ cut) = count at *
    have fraction : fractionLength (kept.drop count) =
        fractionLength ((kept ++ cut).drop count) := by
      apply fractionLength_cutStable.behind
      split at fits <;> omega
    rw [fraction]
    split at fits
    · rename_i pointed
      rw [if_pos pointed, if_pos pointed]
      rw [exponentLength_cutStable.behind (by omega)]
    · rename_i pointless
      rw [if_neg pointless, if_neg pointless]
      -- Without digits in front an exponent is not looked for.
      rcases Nat.eq_zero_or_pos count with none | some
      · simp [none]
      · have exponent : exponentLength (kept.drop count) =
            exponentLength ((kept ++ cut).drop count) := by
          apply exponentLength_cutStable.behind
          split at fits <;> simp_all
        rw [exponent]

/-- A stable rule and another one for where it takes nothing are stable. -/
theorem orElse_cutStable {left right : List Char → Nat} (leftStable : CutStable left)
    (rightStable : CutStable right) :
    CutStable fun chars => if 0 < left chars then left chars else right chars := by
  -- The first length fits in either case, so the same branch is taken.
  intro kept cut fits
  simp only at fits ⊢
  have first : left kept = left (kept ++ cut) := by
    apply leftStable
    split at fits <;> omega
  rw [first]
  split at fits
  · rename_i taken
    rw [if_pos taken, if_pos taken]
  · rename_i refused
    rw [if_neg refused, if_neg refused]
    exact rightStable kept cut fits

/-- A whole number has a base with digits of its own, or plain digits. -/
theorem integerLength_eq : integerLength = fun chars =>
    let based := charThenSome (· == '0') (fun _ rest =>
      charThenSome (fun char => char == 'x' || char == 'X')
          (fun _ => runLength isHexadecimal) rest +
        charThenSome (fun char => char == 'b' || char == 'B')
          (fun _ => runLength isBinary) rest) chars
    if 0 < based then based else digitsLength chars := by
  -- A zero with a letter for the base behind it, or digits from the start.
  funext chars
  unfold integerLength
  split
  · rename_i base rest
    simp only [charThenSome]
    grind
  · rcases chars with _ | ⟨zero, _ | ⟨base, rest⟩⟩ <;> simp_all [charThenSome]

/-- A whole number does not depend on what follows it. -/
theorem integerLength_cutStable : CutStable integerLength := by
  -- The two bases are runs of their digits.
  rw [integerLength_eq]
  refine orElse_cutStable (charThenSome_cutStable fun _ _ => add_cutStable ?_ ?_)
    digitsLength_cutStable
  · exact charThenSome_cutStable fun _ _ => runLength_cutStable isHexadecimal
  · exact charThenSome_cutStable fun _ _ => runLength_cutStable isBinary

/-- A character of a string that is no backslash stands for itself. -/
theorem stringTailLength_cons {quoteMark char : Char} (rest : List Char) (plain : char ≠ '\\') :
    stringTailLength quoteMark (char :: rest) =
      if char = quoteMark then 1
      else if 0 < stringTailLength quoteMark rest then stringTailLength quoteMark rest + 1
        else 0 := by
  rw [stringTailLength.eq_2 quoteMark char rest fun _ _ backslash => absurd backslash plain]
  simp [plain]

/-- The tail of a string does not depend on what follows it. -/
theorem stringTailLength_cutStable {quoteMark : Char} (plain : quoteMark ≠ '\\') :
    CutStable (stringTailLength quoteMark) := by
  intro kept cut fits
  -- The induction is on the kept text, which holds the closing quote if the tail fits into it.
  fun_induction stringTailLength quoteMark kept with
  | case1 escaped rest tail taken ih =>
    simp only [List.cons_append, stringTailLength, List.length_cons] at fits ⊢
    grind
  | case2 escaped rest tail taken ih =>
    simp only [List.cons_append, stringTailLength, List.length_cons] at fits ⊢
    grind
  | case3 char rest _ closes =>
    obtain rfl : char = quoteMark := by simpa using closes
    rw [List.cons_append, stringTailLength_cons _ plain, if_pos rfl]
  | case4 char rest lone _ backslash =>
    -- A backslash at the cut takes a character along that was cut off.
    obtain rfl : char = '\\' := by simpa using backslash
    cases rest with
    | cons next rest => exact absurd rfl (lone next rest rfl)
    | nil =>
      cases cut with
      | nil => simp [stringTailLength, plain.symm]
      | cons next cut =>
        simp only [List.cons_append, List.nil_append, stringTailLength, List.length_singleton]
          at fits ⊢
        grind
  | case5 char rest _ open_ noBackslash tail taken ih =>
    have different : char ≠ '\\' := by simpa using noBackslash
    rw [List.cons_append, stringTailLength_cons _ different] at fits ⊢
    grind
  | case6 char rest _ open_ noBackslash tail taken ih =>
    have different : char ≠ '\\' := by simpa using noBackslash
    rw [List.cons_append, stringTailLength_cons _ different] at fits ⊢
    grind
  | case7 => simp_all

/-- A string is a quote and its tail. -/
theorem stringLength_eq : stringLength =
    charThenSome (fun char => char == '\'' || char == '"') stringTailLength := by
  -- The quote is the first character, whichever of the two it is.
  funext chars
  cases chars with
  | nil => rfl
  | cons char rest =>
    simp only [stringLength, charThenSome]
    grind

/-- A string does not depend on what follows it. -/
theorem stringLength_cutStable : CutStable stringLength := by
  -- The quote is no backslash.
  rw [stringLength_eq]
  refine charThenSome_cutStable fun char mark => stringTailLength_cutStable ?_
  rintro rfl
  simp at mark

/-- A run of passing characters ends where the next one fails. -/
theorem runLength_append {test : Char → Bool} {run more : List Char}
    (passes : ∀ char ∈ run, test char = true) (stops : ∀ char ∈ more.head?, test char = false) :
    runLength test (run ++ more) = run.length := by
  -- Over the run, up to the character that stops it.
  induction run with
  | nil => cases more <;> simp_all [runLength]
  | cons char run ih =>
    have first : test char = true := passes char (by simp)
    simp [runLength, first, ih fun later member => passes later (by simp [member])]

/-- The characters of a run all pass its test. -/
theorem test_of_mem_runLength {test : Char → Bool} {chars : List Char} :
    ∀ char ∈ chars.take (runLength test chars), test char = true := by
  -- Over the characters: each one taken has passed the test.
  induction chars with
  | nil => simp
  | cons char rest ih =>
    intro member listed
    simp only [runLength] at listed
    split at listed
    · rename_i passes
      rw [List.take_succ_cons, List.mem_cons] at listed
      rcases listed with rfl | later
      · exact passes
      · exact ih member later
    · simp at listed

/-- Whether a character may be part of the type that a cast names. -/
def isCastType (char : Char) : Bool :=
  -- Padding and the closing parenthesis end the type.
  !isCastPadding char && char != ')'

/-- Whether a text is the type of a cast, whatever its case. -/
def namesCast (type : List Char) : Bool :=
  -- The case is folded onto small letters.
  castTypes.any fun name => name.toList == type.map foldCase

/-- The parts of a cast: the type it names, and the padding on both sides of it. -/
structure CastShape (before type after : List Char) : Prop where
  padded : ∀ char ∈ before ++ after, isCastPadding char = true
  typed : ∀ char ∈ type, isCastType char = true
  named : namesCast type = true

/-- A padded type between parentheses is a cast, whatever follows it. -/
theorem CastShape.length {before type after : List Char} (shape : CastShape before type after)
    (tail : List Char) :
    castLength ('(' :: (before ++ (type ++ (after ++ ')' :: tail)))) =
      2 + before.length + type.length + after.length := by
  obtain ⟨padded, typed, named⟩ := shape
  -- Each run ends where the next part starts, and the type is never empty.
  have first : runLength isCastPadding (before ++ (type ++ (after ++ ')' :: tail))) =
      before.length := by
    refine runLength_append (fun char member => padded char (by simp [member])) ?_
    cases type with
    | nil => simp [namesCast, castTypes] at named
    | cons char type =>
      have opens := typed char (by simp)
      simp_all [isCastType]
  have second : runLength (fun char => !isCastPadding char && char != ')')
      (type ++ (after ++ ')' :: tail)) = type.length := by
    refine runLength_append typed ?_
    cases after <;> simp_all
  have third : runLength isCastPadding (after ++ ')' :: tail) = after.length :=
    runLength_append (fun char member => padded char (by simp [member])) (by simp [isCastPadding])
  have last : (type ++ (after ++ ')' :: tail)).drop (type.length + after.length) = ')' :: tail := by
    rw [← List.drop_drop, List.drop_left, List.drop_left]
  unfold namesCast at named
  simp only [castLength, first, List.drop_left, second, third, List.take_left, last, named, if_true]

/-- What a cast takes is a padded type between parentheses. -/
theorem exists_castShape {chars : List Char} (taken : 0 < castLength chars) :
    ∃ before type after tail, CastShape before type after ∧
      chars = '(' :: (before ++ (type ++ (after ++ ')' :: tail))) := by
  unfold castLength at taken
  split at taken
  · rename_i rest
    simp only at taken
    generalize split : rest.drop (runLength isCastPadding rest) = inner at taken
    split at taken
    · rename_i tail closed
      split at taken
      · rename_i named
        refine ⟨rest.take (runLength isCastPadding rest), inner.take (runLength isCastType inner),
          (inner.drop (runLength isCastType inner)).take
            (runLength isCastPadding (inner.drop (runLength isCastType inner))), tail,
          ⟨?_, test_of_mem_runLength, named⟩, ?_⟩
        · intro char member
          rcases List.mem_append.mp member with front | back
          · exact test_of_mem_runLength char front
          · exact test_of_mem_runLength char back
        · -- Taking a part and dropping it again puts the text together.
          have typed : (fun char => !isCastPadding char && char != ')') = isCastType := rfl
          rw [← closed, typed, ← List.drop_drop, List.take_append_drop, List.take_append_drop,
          ← split, List.take_append_drop]
      · simp at taken
    · simp at taken
  · simp at taken

/-- A cast does not depend on what follows it. -/
theorem castLength_cutStable : CutStable castLength := by
  intro kept cut fits
  rcases Nat.eq_zero_or_pos (castLength (kept ++ cut)) with none | taken
  · -- A cast in the kept text would still be one in the longer text.
    rcases Nat.eq_zero_or_pos (castLength kept) with same | found
    · rw [none, same]
    · obtain ⟨before, type, after, tail, shape, rfl⟩ := exists_castShape found
      have longer := shape.length (tail ++ cut)
      simp_all
  · obtain ⟨before, type, after, tail, shape, whole⟩ := exists_castShape taken
    have length := shape.length tail
    rw [← whole] at length
    -- What the cast takes lies in the kept text, so only the text behind it is cut.
    have opens : '(' :: (before ++ (type ++ (after ++ [')']))) <+: kept := by
      have starts : '(' :: (before ++ (type ++ (after ++ [')']))) <+: kept ++ cut :=
        ⟨tail, by simp [whole]⟩
      apply List.prefix_of_prefix_length_le starts (List.prefix_append kept cut)
      simp
      omega
    obtain ⟨rest, rfl⟩ := opens
    rw [length]
    simpa using shape.length rest

/-- Cutting text off keeps the first name that fits into what is left. -/
theorem find?_isPrefixOf_kept {names : List String} {kept cut : List Char}
    (fits : ∀ name, (names.find? fun name => name.toList.isPrefixOf (kept ++ cut)) = some name →
      name.length ≤ kept.length) :
    (names.find? fun name => name.toList.isPrefixOf kept) =
      names.find? fun name => name.toList.isPrefixOf (kept ++ cut) := by
  -- Over the names: the first that opens the whole text fits, so it opens what is kept.
  induction names with
  | nil => rfl
  | cons name names ih =>
    simp only [List.find?_cons] at fits ⊢
    cases opens : name.toList.isPrefixOf (kept ++ cut) with
    | true =>
      have short := fits name (by rw [opens])
      have still : name.toList.isPrefixOf kept = true := by
        rw [List.isPrefixOf_iff_prefix] at opens ⊢
        exact List.prefix_of_prefix_length_le opens (List.prefix_append kept cut)
          (by rwa [String.length_toList])
      rw [still]
    -- A name that does not open the whole text does not open a part of it.
    | false =>
      have neither : name.toList.isPrefixOf kept = false := by
        rw [Bool.eq_false_iff] at opens ⊢
        intro still
        rw [ne_eq, List.isPrefixOf_iff_prefix] at opens
        rw [List.isPrefixOf_iff_prefix] at still
        exact opens (still.trans (List.prefix_append kept cut))
      rw [neither]
      exact ih fun other found => fits other (by rw [opens]; exact found)

/-- An operator does not depend on what follows it. -/
theorem operatorLength_cutStable : CutStable operatorLength := by
  -- The operator found in the whole text fits into what is kept.
  intro kept cut fits
  simp only [operatorLength] at fits ⊢
  have same : (operators.find? fun operator => operator.toList.isPrefixOf kept) =
      operators.find? fun operator => operator.toList.isPrefixOf (kept ++ cut) := by
    refine find?_isPrefixOf_kept fun name found => ?_
    rwa [found] at fits
  rw [same]

/-- A backslash is a single character. -/
theorem separatorLength_eq : separatorLength = charThen (· == '\\') fun _ _ => 0 := by
  -- The backslash, or a text that does not start with it.
  funext chars
  unfold separatorLength
  split
  · simp [charThen]
  · rcases chars with _ | ⟨first, rest⟩ <;> simp_all [charThen]

/-- A backslash does not depend on what follows it. -/
theorem separatorLength_cutStable : CutStable separatorLength := by
  rw [separatorLength_eq]
  exact charThen_cutStable fun _ _ => cutStable_zero

/-- No rule for code depends on what follows what it takes. -/
theorem lexicalRules_cutStable {rule : LexicalRule} (listed : rule ∈ lexicalRules) :
    CutStable rule.length := by
  -- Rule by rule, in the order in which they are tried.
  simp only [lexicalRules, List.mem_cons, List.not_mem_nil, or_false] at listed
  rcases listed with rfl | rfl | rfl | rfl | rfl | rfl | rfl | rfl | rfl | rfl | rfl | rfl | rfl |
    rfl
  · exact closeTagLength_cutStable
  · exact runLength_cutStable isBlank
  · exact docCommentLength_cutStable
  · exact blockCommentLength_cutStable
  · exact attributeLength_cutStable
  · exact lineCommentLength_cutStable
  · exact variableLength_cutStable
  · exact wordLength_cutStable
  · exact decimalLength_cutStable
  · exact integerLength_cutStable
  · exact stringLength_cutStable
  · exact castLength_cutStable
  · exact operatorLength_cutStable
  · exact separatorLength_cutStable

/-- The length of the blank that belongs to the tag in front of it. -/
def tagBlankLength : List Char → Nat
  -- A carriage return takes its line feed along.
  | '\r' :: '\n' :: _ => 2
  | char :: _ => if isBlank char then 1 else 0
  | [] => 0

/-- The blank of a tag is a whole line break, or else one character. -/
theorem tagBlankLength_eq : tagBlankLength = fun chars =>
    let lineBreak := charThenSome (· == '\r') (fun _ => charThen (· == '\n') fun _ _ => 0) chars
    if 0 < lineBreak then lineBreak else charThen isBlank (fun _ _ => 0) chars := by
  funext chars
  unfold tagBlankLength
  split
  · simp [charThenSome, charThen]
  · -- Any other first character counts if it is blank, a carriage return alone among them.
    rename_i char rest different
    cases rest with
    | nil => simp [charThenSome, charThen]
    | cons next others =>
      have idle : charThenSome (· == '\r') (fun _ => charThen (· == '\n') fun _ _ => 0)
          (char :: next :: others) = 0 := by
        by_cases front : char = '\r'
        · have alone : next ≠ '\n' := fun back => different others front (by rw [back])
          simp [charThenSome, charThen, alone]
        · simp [charThenSome, front]
      simp [idle, charThen]
  · rfl

/-- The blank of a tag does not depend on what follows it. -/
theorem tagBlankLength_cutStable : CutStable tagBlankLength := by
  -- Either way single characters are looked at.
  rw [tagBlankLength_eq]
  refine orElse_cutStable (charThenSome_cutStable fun _ _ => ?_) ?_
  all_goals exact charThen_cutStable fun _ _ => cutStable_zero

/-- Whether a text opens with the three letters of a tag, whatever their case. -/
def opensWithLetters (chars : List Char) : Bool :=
  -- The letters follow the two characters of every tag.
  chars.take 2 == ['<', '?'] && ((chars.drop 2).take 3).map foldCase == ['p', 'h', 'p']

/-- The tag that enters code has an equals sign, or three letters and a blank. -/
theorem openTagLength_eq (chars : List Char) :
    openTagLength chars =
      if chars.take 3 = ['<', '?', '='] then 3
      else if opensWithLetters chars then 5 + tagBlankLength (chars.drop 5) else 0 := by
  unfold openTagLength
  split
  · -- The short tag with the sign for an echo.
    simp
  · -- Three letters in either case, and one blank behind them.
    rename_i first second third rest different
    have noEcho : ('<' :: '?' :: first :: second :: third :: rest).take 3 ≠ ['<', '?', '='] := by
      simpa using different
    have letters : opensWithLetters ('<' :: '?' :: first :: second :: third :: rest) =
        ([first, second, third].map foldCase == ['p', 'h', 'p']) := by
      simp [opensWithLetters]
    rw [if_neg noEcho, letters]
    split
    · simp only [List.drop_succ_cons, List.drop_zero]
      unfold tagBlankLength
      split
      · rfl
      · split <;> simp_all
      · rfl
    · rfl
  · -- A text shorter than the tag, or one that starts differently.
    rcases chars with _ | ⟨first, _ | ⟨second, _ | ⟨third, _ | ⟨fourth, _ | ⟨fifth, rest⟩⟩⟩⟩⟩ <;>
      simp_all [opensWithLetters] <;> grind

/-- A text that opens with the letters of a tag has all five characters. -/
theorem length_of_opensWithLetters {chars : List Char} (opens : opensWithLetters chars = true) :
    5 ≤ chars.length := by
  -- Three letters stand behind the first two characters.
  simp only [opensWithLetters, Bool.and_eq_true, beq_iff_eq] at opens
  have letters := congrArg List.length opens.2
  simp only [List.length_map, List.length_take, List.length_drop, List.length_cons,
    List.length_nil] at letters
  omega

/-- Five characters decide whether a text opens with the letters of a tag. -/
theorem opensWithLetters_append {kept : List Char} (cut : List Char) (long : 5 ≤ kept.length) :
    opensWithLetters (kept ++ cut) = opensWithLetters kept := by
  -- Only the first five characters are looked at.
  have two : (kept ++ cut).take 2 = kept.take 2 := List.take_append_of_le_length (by omega)
  have three : ((kept ++ cut).drop 2).take 3 = (kept.drop 2).take 3 := by
    rw [drop_kept cut (by omega), List.take_append_of_le_length (by simp; omega)]
  rw [opensWithLetters, opensWithLetters, two, three]

/-- The tag that enters code does not depend on what follows it. -/
theorem openTagLength_cutStable : CutStable openTagLength := by
  intro kept cut fits
  rw [openTagLength_eq] at fits
  rw [openTagLength_eq, openTagLength_eq]
  -- What decides lies in the kept text whenever one of the two tests succeeds.
  have echo : kept.take 3 = ['<', '?', '='] ↔ (kept ++ cut).take 3 = ['<', '?', '='] := by
    by_cases long : 3 ≤ kept.length
    · rw [List.take_append_of_le_length long]
    · constructor
      · intro short
        have := congrArg List.length short
        simp at this
        omega
      · intro tag
        rw [if_pos tag] at fits
        omega
  by_cases tag : (kept ++ cut).take 3 = ['<', '?', '=']
  · rw [if_pos (echo.mpr tag), if_pos tag]
  · rw [if_neg tag] at fits
    rw [if_neg (mt echo.mp tag), if_neg tag]
    by_cases long : 5 ≤ kept.length
    · rw [opensWithLetters_append cut long] at fits ⊢
      split at fits
      · rename_i letters
        rw [if_pos letters, if_pos letters, tagBlankLength_cutStable.behind fits]
      · rename_i other
        rw [if_neg other, if_neg other]
    · have neither : ¬opensWithLetters (kept ++ cut) = true := by
        intro letters
        rw [if_pos letters] at fits
        omega
      rw [if_neg neither, if_neg fun letters => long (length_of_opensWithLetters letters)]

end PhpOutline
