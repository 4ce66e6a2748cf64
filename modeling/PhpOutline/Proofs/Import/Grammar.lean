import Mathlib
import PhpOutline.Proofs.ImportMark
import PhpOutline.Proofs.Text.ByteOrder
import PhpOutline.Proofs.Trivia.Squeezed

/-!
The grammar of import statements and the names that they bring in.

A statement is written as its significant tokens without their lines, so trivia may stand anywhere.
Reading a written name, item or list of items changes what has been read in one way only, and no
token of a statement declares a class or ends the statement early.
-/

namespace PhpOutline

/-- A word of a name: an identifier, or a reserved word other than the one for aliases. -/
structure NameWord where
  /-- The class of a reserved word, which an identifier lacks. -/
  keyword? : Option Keyword
  text : String
  noAlias : keyword? ≠ some .asWord
  spelled : text ≠ ""

/-- The token of a word. -/
def NameWord.token (word : NameWord) : Token :=
  -- An identifier is no reserved word.
  .typed (word.keyword?.elim .identifier .word) word.text 0

/-- The backslash between the words of a name. -/
def nameSeparator : Token :=
  -- It is a token with a kind of its own.
  .typed .nameSeparator "\\" 0

/-- A name: words with backslashes between them, and perhaps one in front. -/
structure ImportName where
  rooted : Bool
  first : NameWord
  others : List NameWord
  /-- The first word does not mark what is imported. -/
  unmarked : first.keyword? ≠ some .functionWord ∧ first.keyword? ≠ some .constWord

/-- The tokens of a name. -/
def ImportName.tokens (name : ImportName) : List Token :=
  -- Each further word comes behind a backslash.
  (if name.rooted then [nameSeparator] else []) ++
    name.first.token :: name.others.flatMap fun word => [nameSeparator, word.token]

/-- The text of a name. -/
def ImportName.text (name : ImportName) : String :=
  -- A backslash in front belongs to the text.
  (if name.rooted then "\\" else "") ++
    "\\".intercalate ((name.first :: name.others).map NameWord.text)

/-- The mark of an imported function or constant. -/
structure ImportMark where
  constant : Bool
  text : String

/-- The token of a mark. -/
def ImportMark.token (mark : ImportMark) : Token :=
  -- There are two words that mark.
  .typed (.word (if mark.constant then .constWord else .functionWord)) mark.text 0

/-- The alias of a name: its keyword and one identifier. -/
structure ImportAlias where
  keyword : String
  text : String

/-- The tokens of an alias. -/
def ImportAlias.tokens (renamed : ImportAlias) : List Token :=
  -- The identifier is a single token.
  [.typed (.word .asWord) renamed.keyword 0, .typed .identifier renamed.text 0]

/-- A member of a group: a name without a backslash in front, perhaps with mark and alias. -/
structure GroupMember where
  mark? : Option ImportMark
  name : ImportName
  alias? : Option ImportAlias
  relative : name.rooted = false

/-- The tokens of a name with its mark and alias. -/
def markedTokens (mark? : Option ImportMark) (name : ImportName) (alias? : Option ImportAlias) :
    List Token :=
  -- The mark stands in front and the alias behind.
  mark?.toList.map ImportMark.token ++ (name.tokens ++ alias?.toList.flatMap ImportAlias.tokens)

/-- The tokens of a member. -/
def GroupMember.tokens (member : GroupMember) : List Token :=
  -- Each member may be marked on its own.
  markedTokens member.mark? member.name member.alias?

/-- Lists of tokens with commas between them. -/
def commaSeparated (lists : List (List Token)) : List Token :=
  -- No comma stands behind the last list.
  [Token.symbol ','].intercalate lists

/-- One of the items that an import statement lists. -/
inductive ImportItem where
  /-- A name, perhaps with an alias. -/
  | single (name : ImportName) (alias? : Option ImportAlias)
  /-- Members behind a common stem, between braces and perhaps with a comma behind the last one. -/
  | group (stem : ImportName) (members : List GroupMember) (nonempty : members ≠ [])
      (trailing : Bool)

/-- The tokens of an item. -/
def ImportItem.tokens : ImportItem → List Token
  -- The stem of a group ends with a backslash.
  | .single name alias? => markedTokens none name alias?
  | .group stem members _ trailing =>
    stem.tokens ++ nameSeparator :: .symbol '{' ::
      (commaSeparated (members.map GroupMember.tokens) ++
        ((if trailing then [.symbol ','] else []) ++ [.symbol '}']))

/-- The names that an item brings in. -/
def ImportItem.names : ImportItem → List String
  -- Marks and aliases play no part, and no backslash stays in front.
  | .single name _ => [stripLeadingSeparators name.text]
  | .group stem members _ _ =>
    members.map fun member => stripLeadingSeparators (stem.text ++ "\\" ++ member.name.text)

/-- An import statement: a keyword, perhaps a mark, items with commas between them, a semicolon. -/
structure ImportStatement where
  keyword : String
  mark? : Option ImportMark
  items : List ImportItem
  nonempty : items ≠ []

/-- The tokens between the keyword and the semicolon of a statement. -/
def ImportStatement.inner (statement : ImportStatement) : List Token :=
  -- A mark in front of the first item holds for all of them.
  statement.mark?.toList.map ImportMark.token ++
    commaSeparated (statement.items.map ImportItem.tokens)

/-- The tokens of a statement. -/
def ImportStatement.tokens (statement : ImportStatement) : List Token :=
  -- The keyword may be spelled in any case.
  .typed (.word .useWord) statement.keyword 0 :: (statement.inner ++ [.symbol ';'])

/-- The names that a statement brings in. -/
def ImportStatement.names (statement : ImportStatement) : List String :=
  -- They come in the order of the items.
  statement.items.flatMap ImportItem.names

section Reading

variable {stem : String} {names : List String}

/-- One more word lengthens the name, unless it is a mark in front of it. -/
theorem ImportState.read_word {current : String} (word : NameWord)
    (unmarked : current ≠ "" ∨
      word.keyword? ≠ some .functionWord ∧ word.keyword? ≠ some .constWord) :
    ImportState.read ⟨stem, current, false, names⟩ word.token =
      ⟨stem, current ++ word.text, false, names⟩ := by
  -- A word is added to the name, save `as` and, where no name is begun, the two marks.
  obtain ⟨keyword?, text, noAlias, spelled⟩ := word
  cases keyword? with
  | none =>
    simp [ImportState.read, NameWord.token, Token.isSymbol, Token.isWord, Token.isKind, Token.text]
  | some keyword =>
    have plain : ¬ keyword = .asWord := by simpa using noAlias
    have stays : ¬ (current = "" ∧ (keyword = .functionWord ∨ keyword = .constWord)) := by
      rintro ⟨rfl, marked⟩
      simp at unmarked
      rcases marked with rfl | rfl <;> simp at unmarked
    simp [ImportState.read, NameWord.token, Token.isSymbol, Token.isWord, Token.isKind, Token.text,
      plain, stays]

/-- A backslash lengthens the name. -/
theorem ImportState.read_separator (current : String) :
    ImportState.read ⟨stem, current, false, names⟩ nameSeparator =
      ⟨stem, current ++ "\\", false, names⟩ := by
  simp [ImportState.read, nameSeparator, Token.isSymbol, Token.isWord, Token.isKind, Token.text]

/-- Further words of a name come behind the one that was read last. -/
theorem foldl_read_words (front : String) (word : NameWord) (others : List NameWord) :
    (others.flatMap fun word => [nameSeparator, word.token]).foldl ImportState.read
        ⟨stem, front ++ word.text, false, names⟩ =
      ⟨stem, front ++ "\\".intercalate ((word :: others).map NameWord.text), false, names⟩ := by
  -- Over the words behind the first: the name begun is never empty, so each is added to it.
  induction others generalizing front word with
  | nil => simp
  | cons next others ih =>
    have longer : front ++ word.text ++ "\\" ≠ "" := by simp [String.append_eq_empty_iff]
    rw [List.flatMap_cons, List.foldl_append, List.foldl_cons, List.foldl_cons, List.foldl_nil,
      ImportState.read_separator, ImportState.read_word next (.inl longer), ih]
    simp [String.append_assoc]

/-- A whole name is read as its text. -/
theorem ImportName.foldl_read (name : ImportName) :
    name.tokens.foldl ImportState.read ⟨stem, "", false, names⟩ =
      ⟨stem, name.text, false, names⟩ := by
  -- A leading separator begins the name; without one the first word does.
  rw [ImportName.tokens, ImportName.text, List.foldl_append, List.foldl_cons]
  cases name.rooted with
  | false =>
    simp only [Bool.false_eq_true, if_false, List.foldl_nil]
    rw [ImportState.read_word name.first (.inr name.unmarked), foldl_read_words]
  | true =>
    simp only [if_true, List.foldl_cons, List.foldl_nil]
    rw [ImportState.read_separator, ImportState.read_word name.first (.inl (by simp)),
      String.empty_append, foldl_read_words]

/-- A name has a text. -/
theorem ImportName.text_ne_empty (name : ImportName) : name.text ≠ "" := by
  have spelled := name.first.spelled
  cases others : name.others <;> simp [ImportName.text, others, String.append_eq_empty_iff, spelled]

/-- A mark in front of a name changes nothing. -/
theorem ImportState.read_mark {state : ImportState} (fresh : state.current = "")
    (mark : ImportMark) : state.read mark.token = state := by
  -- A mark is read before any name is begun, and both marks leave the state as it is.
  cases marked : mark.constant <;>
    simp [ImportState.read, ImportMark.token, marked, fresh, Token.isSymbol, Token.isWord,
      Token.isKind]

/-- An alias only says that the name is over. -/
theorem ImportState.foldl_read_alias (state : ImportState) (renamed : ImportAlias) :
    renamed.tokens.foldl ImportState.read state = { state with aliased := true } := by
  simp [ImportState.read, ImportAlias.tokens, Token.isSymbol, Token.isWord, Token.isKind]

/-- When a marked name with its alias is complete, it is added without backslashes in front. -/
theorem complete_foldl_markedTokens (mark? : Option ImportMark) (name : ImportName)
    (alias? : Option ImportAlias) :
    ((markedTokens mark? name alias?).foldl ImportState.read ⟨stem, "", false, names⟩).complete =
      ⟨stem, "", false, stripLeadingSeparators (stem ++ name.text) :: names⟩ := by
  -- The mark changes nothing, the name is gathered, and an alias only closes it.
  have nonempty : name.text.isEmpty = false := by simpa using name.text_ne_empty
  have marked : (mark?.toList.map ImportMark.token).foldl ImportState.read
      ⟨stem, "", false, names⟩ = ⟨stem, "", false, names⟩ := by
    cases mark? with
    | none => rfl
    | some mark => exact ImportState.read_mark rfl mark
  rw [markedTokens, List.foldl_append, marked, List.foldl_append, name.foldl_read]
  cases alias? with
  | none => simp [ImportState.complete, nonempty]
  | some renamed =>
    simp [ImportState.foldl_read_alias, ImportState.complete, nonempty]

/-- A comma completes the name before it. -/
theorem ImportState.read_comma (state : ImportState) :
    state.read (.symbol ',') = state.complete := by
  simp [ImportState.read, Token.isSymbol]

/-- A comma behind the last name adds nothing to what is complete without it. -/
theorem complete_foldl_trailing (state : ImportState) (trailing : Bool) :
    ((if trailing then [Token.symbol ','] else []).foldl ImportState.read state).complete =
      state.complete := by
  -- A trailing comma completes the name a second time, with nothing gathered.
  cases trailing with
  | false => rfl
  | true =>
    simp only [if_true, List.foldl_cons, List.foldl_nil, ImportState.read_comma]
    simp [ImportState.complete]

/-- Items with commas between them are read one after the other. -/
theorem complete_foldl_commaSeparated {α : Type} {tokensOf : α → List Token}
    {namesOf : α → List String} {items : List α} (nonempty : items ≠ [])
    (each : ∀ item ∈ items, ∀ names,
      ((tokensOf item).foldl ImportState.read ⟨stem, "", false, names⟩).complete =
        ⟨stem, "", false, (namesOf item).reverse ++ names⟩) :
    ((commaSeparated (items.map tokensOf)).foldl ImportState.read
        ⟨stem, "", false, names⟩).complete =
      ⟨stem, "", false, (items.flatMap namesOf).reverse ++ names⟩ := by
  -- Over the items: each comma completes the item before it.
  induction items generalizing names with
  | nil => exact absurd rfl nonempty
  | cons item items ih =>
    cases items with
    | nil => simpa [commaSeparated] using each item List.mem_cons_self names
    | cons next items =>
      have split : commaSeparated ((item :: next :: items).map tokensOf) =
          tokensOf item ++ .symbol ',' :: commaSeparated ((next :: items).map tokensOf) := by
        simp [commaSeparated]
      rw [split, List.foldl_append, List.foldl_cons, ImportState.read_comma,
        each item List.mem_cons_self,
        ih (by simp) fun other listed => each other (List.mem_cons_of_mem _ listed)]
      simp

/-- An item adds the names that it brings in. -/
theorem ImportItem.complete_foldl_read (item : ImportItem) (names : List String) :
    (item.tokens.foldl ImportState.read ⟨"", "", false, names⟩).complete =
      ⟨"", "", false, item.names.reverse ++ names⟩ := by
  cases item with
  | single name alias? =>
    -- A single name stands under the empty stem.
    rw [ImportItem.tokens, complete_foldl_markedTokens, String.empty_append]
    rfl
  | group stem members nonempty trailing =>
    -- The brace makes the name so far the stem, and the closing brace drops it again.
    have opened : ImportState.read ⟨"", stem.text ++ "\\", false, names⟩ (.symbol '{') =
        ⟨stem.text ++ "\\", "", false, names⟩ := by
      simp [ImportState.read, Token.isSymbol]
    have closed : ∀ state : ImportState,
        state.read (.symbol '}') = { state.complete with stem := "" } := by
      intro state
      simp [ImportState.read, Token.isSymbol]
    -- Every member is read under the stem.
    have each : ∀ member ∈ members, ∀ names,
        (member.tokens.foldl ImportState.read ⟨stem.text ++ "\\", "", false, names⟩).complete =
          ⟨stem.text ++ "\\", "", false,
            [stripLeadingSeparators (stem.text ++ "\\" ++ member.name.text)].reverse ++ names⟩ :=
      fun member _ _ => complete_foldl_markedTokens member.mark? member.name member.alias?
    rw [ImportItem.tokens, List.foldl_append, stem.foldl_read, List.foldl_cons,
      ImportState.read_separator, List.foldl_cons, opened, List.foldl_append, List.foldl_append,
      List.foldl_cons, List.foldl_nil, closed, complete_foldl_trailing,
      complete_foldl_commaSeparated nonempty each]
    simp [ImportState.complete, ImportItem.names, List.map_eq_flatMap]

/-- The inside of a statement brings in the names of its items. -/
theorem ImportStatement.importedNames_inner (statement : ImportStatement)
    (significant : ∀ token ∈ statement.inner, token.isTrivia = false) :
    importedNames statement.inner = statement.names := by
  -- No trivia is left out, and a mark before the first item changes nothing.
  have unfiltered : (statement.inner.filter fun token => !token.isTrivia) = statement.inner :=
    List.filter_eq_self.mpr fun token listed => by simp [significant token listed]
  have marked : (statement.mark?.toList.map ImportMark.token).foldl ImportState.read {} = {} := by
    cases statement.mark? with
    | none => rfl
    | some mark => exact ImportState.read_mark rfl mark
  simp only [importedNames]
  rw [unfiltered, ImportStatement.inner, List.foldl_append, marked,
    complete_foldl_commaSeparated statement.nonempty fun item _ => item.complete_foldl_read,
    List.append_nil, List.reverse_reverse]
  rfl

end Reading

section Declaring

/-- Whether a token behind the keyword of a class names the class or leads up to its name. -/
def Token.opensName (token : Token) : Bool :=
  -- An ampersand may stand in front of a name.
  token.namesClass || token.isSymbol '&'

/-- No token for a class has a name right behind it. -/
def NamesNoClass (tokens : List Token) : Prop :=
  -- Only neighbours are compared, so no trivia may stand between them.
  tokens.IsChain fun token next => token.kind?.any Kind.isClassLike = true → next.opensName = false

/-- Two lists may follow one another if the second one does not start with a name. -/
theorem NamesNoClass.append {token : Token} {left right : List Token} (one : NamesNoClass left)
    (other : NamesNoClass (token :: right)) (parts : token.opensName = false) :
    NamesNoClass (left ++ token :: right) :=
  List.isChain_append.mpr ⟨one, other, by simp [parts]⟩

/-- Any other token than one for a class may stand in front. -/
theorem NamesNoClass.cons {token : Token} {tokens : List Token}
    (unlike : token.kind?.any Kind.isClassLike = false) (unnamed : NamesNoClass tokens) :
    NamesNoClass (token :: tokens) :=
  List.isChain_cons.mpr ⟨fun _ _ classLike => by simp [unlike] at classLike, unnamed⟩

/-- Without trivia and names behind tokens for classes no site declares a class. -/
theorem declaresClass_eq_false {tokens : List Token}
    (significant : ∀ token ∈ tokens, token.isTrivia = false) (unnamed : NamesNoClass tokens)
    (index : Nat) : declaresClass (Site.at tokens index) = false := by
  have suffix : NamesNoClass (tokens.drop index) := List.IsChain.drop unnamed index
  have dropped : ∀ token ∈ tokens.drop index, token.isTrivia = false :=
    fun token listed => significant token (List.mem_of_mem_drop listed)
  simp only [declaresClass, Site.at]
  cases ahead : tokens.drop index with
  | nil => rfl
  | cons token after =>
    rw [ahead] at suffix dropped
    cases classLike : token.kind?.any Kind.isClassLike with
    | false => simp [classLike]
    | true =>
      -- The token that follows would have to be the name.
      have nameless : classNameOffset after = none := by
        cases after with
        | nil => rfl
        | cons next rest =>
          have quiet : next.opensName = false :=
            (List.isChain_cons.mp suffix).1 next rfl classLike
          have seen : next.isTrivia = false := dropped next (by simp)
          simp only [Token.opensName, Bool.or_eq_false_iff] at quiet
          simp [classNameOffset, nameOffset, significantFrom, List.findIdx?_cons, seen, quiet]
      simp [nameless]

/-- A list without declarations of classes has no bodies of classes. -/
theorem classBodies_eq_nil {tokens : List Token}
    (significant : ∀ token ∈ tokens, token.isTrivia = false) (unnamed : NamesNoClass tokens) :
    classBodies tokens = [] := by
  -- Every class body was reported at a keyword that declares a class, and none is here.
  rw [classBodies, List.map_eq_nil_iff, List.eq_nil_iff_forall_not_mem]
  intro span listed
  obtain ⟨index, last, -, reported⟩ := mem_sweep listed
  obtain ⟨_, _, _, -, declares, -⟩ := recognizeClassBrace_report reported
  rw [declaresClass_eq_false significant unnamed] at declares
  exact Bool.noConfusion declares

/-- Tokens that may stand in an import and declare no class. -/
structure ImportPiece (tokens : List Token) : Prop where
  stands : ∀ token ∈ tokens, token.standsInImport = true
  unnamed : NamesNoClass tokens

theorem ImportPiece.nil : ImportPiece [] :=
  ⟨by simp, .nil⟩

/-- Two pieces may follow one another if the second one does not start with a name. -/
theorem ImportPiece.append {token : Token} {left right : List Token} (one : ImportPiece left)
    (other : ImportPiece (token :: right)) (parts : token.opensName = false) :
    ImportPiece (left ++ token :: right) where
  stands := List.forall_mem_append.mpr ⟨one.stands, other.stands⟩
  unnamed := one.unnamed.append other.unnamed parts

/-- A token that is not for a class may stand in front of a piece. -/
theorem ImportPiece.cons {token : Token} {tokens : List Token}
    (stands : token.standsInImport = true) (unlike : token.kind?.any Kind.isClassLike = false)
    (piece : ImportPiece tokens) :
    ImportPiece (token :: tokens) where
  stands := List.forall_mem_cons.mpr ⟨stands, piece.stands⟩
  unnamed := piece.unnamed.cons unlike

/-- A word of a name may stand in an import. -/
theorem NameWord.standsInImport (word : NameWord) : word.token.standsInImport = true := by
  obtain ⟨keyword?, text, noAlias, spelled⟩ := word
  cases keyword? <;> rfl

/-- A word with further words behind it, each after a backslash. -/
theorem ImportPiece.words (word : NameWord) (others : List NameWord) :
    ImportPiece (word.token :: others.flatMap fun word => [nameSeparator, word.token]) := by
  -- Over the words behind the first: a separator joins each to the piece.
  induction others generalizing word with
  | nil => exact ⟨by simp [word.standsInImport], .singleton _⟩
  | cons next others ih =>
    have rest : ImportPiece (nameSeparator :: next.token ::
        others.flatMap fun word => [nameSeparator, word.token]) := (ih next).cons rfl rfl
    have alone : ImportPiece [word.token] := ⟨by simp [word.standsInImport], .singleton _⟩
    exact alone.append rest rfl

/-- A name is a piece. -/
theorem ImportName.piece (name : ImportName) : ImportPiece name.tokens := by
  -- The leading separator, where there is one, is one more token of the piece.
  have words := ImportPiece.words name.first name.others
  rw [ImportName.tokens]
  cases name.rooted with
  | false => exact words
  | true => exact words.cons rfl rfl

/-- A mark may stand in front of a piece. -/
theorem ImportPiece.marked {tokens : List Token} (mark? : Option ImportMark)
    (piece : ImportPiece tokens) : ImportPiece (mark?.toList.map ImportMark.token ++ tokens) := by
  -- The mark, where there is one, is one more token of the piece.
  cases mark? with
  | none => exact piece
  | some mark =>
    obtain ⟨constant, text⟩ := mark
    cases constant <;> exact piece.cons rfl rfl

/-- A name with its mark and alias is a piece. -/
theorem ImportPiece.markedTokens (mark? : Option ImportMark) (name : ImportName)
    (alias? : Option ImportAlias) : ImportPiece (markedTokens mark? name alias?) := by
  -- The alias, where there is one, is appended.
  refine .marked mark? ?_
  cases alias? with
  | none => simpa using name.piece
  | some renamed =>
    have tokens : ImportPiece renamed.tokens := .cons rfl rfl (.cons rfl rfl .nil)
    simpa [ImportAlias.tokens] using name.piece.append tokens rfl

/-- Pieces with commas between them are a piece. -/
theorem ImportPiece.commaSeparated {lists : List (List Token)}
    (each : ∀ tokens ∈ lists, ImportPiece tokens) : ImportPiece (commaSeparated lists) := by
  -- Over the pieces: a comma stands between two of them.
  induction lists with
  | nil => exact .nil
  | cons tokens lists ih =>
    have first : ImportPiece tokens := each tokens List.mem_cons_self
    cases lists with
    | nil => simpa [PhpOutline.commaSeparated] using first
    | cons next lists =>
      have rest := ih fun other listed => each other (List.mem_cons_of_mem _ listed)
      have behind : ImportPiece (.symbol ',' :: PhpOutline.commaSeparated (next :: lists)) :=
        rest.cons rfl rfl
      simpa [PhpOutline.commaSeparated] using first.append behind rfl

/-- An item is a piece. -/
theorem ImportItem.piece (item : ImportItem) : ImportPiece item.tokens := by
  cases item with
  | single name alias? => exact .markedTokens none name alias?
  | group stem members nonempty trailing =>
    -- A group is built from its closing brace back to the stem.
    have listed : ImportPiece (commaSeparated (members.map GroupMember.tokens)) := by
      apply ImportPiece.commaSeparated
      intro tokens known
      obtain ⟨member, -, rfl⟩ := List.mem_map.mp known
      exact .markedTokens member.mark? member.name member.alias?
    have brace : ImportPiece [.symbol '}'] := ImportPiece.nil.cons rfl rfl
    have inner : ImportPiece (commaSeparated (members.map GroupMember.tokens) ++
        ((if trailing then [.symbol ','] else []) ++ [.symbol '}'])) := by
      cases trailing with
      | false => exact listed.append brace rfl
      | true =>
        have comma : ImportPiece [.symbol ',', .symbol '}'] := brace.cons rfl rfl
        exact listed.append comma rfl
    rw [ImportItem.tokens]
    exact stem.piece.append ((inner.cons rfl rfl).cons rfl rfl) rfl

/-- The inside of a statement is a piece. -/
theorem ImportStatement.piece (statement : ImportStatement) : ImportPiece statement.inner := by
  -- The items are pieces, and so are their list and the list behind the mark.
  rw [ImportStatement.inner]
  apply ImportPiece.marked
  apply ImportPiece.commaSeparated
  intro tokens known
  obtain ⟨item, -, rfl⟩ := List.mem_map.mp known
  exact item.piece

/-- Statements that follow one another declare no class. -/
theorem namesNoClass_statements (statements : List ImportStatement) :
    NamesNoClass (statements.flatMap ImportStatement.tokens) := by
  -- Over the statements: a class name would need `class` directly before it, and each ends in `;`.
  induction statements with
  | nil => exact .nil
  | cons statement statements ih =>
    have inner : NamesNoClass (statement.inner ++ [.symbol ';']) :=
      statement.piece.unnamed.append (.singleton _) rfl
    have first : NamesNoClass statement.tokens := inner.cons rfl
    cases statements with
    | nil => simpa using first
    | cons next statements => exact first.append ih rfl

end Declaring

/-- No semicolon stands in the inside of an import. -/
theorem Token.isSymbol_eq_false_of_standsInImport {token : Token}
    (stands : token.standsInImport = true) : token.isSymbol ';' = false := by
  -- The symbols of an import are the braces and the comma.
  cases token with
  | typed kind text line => rfl
  | symbol char =>
    simp [Token.standsInImport, Token.isTrivia, Token.isNamePart, Token.isSymbol] at stands
    rcases stands with (rfl | rfl) | rfl <;> rfl

/-- Where a statement may start, a written one is reported from its keyword to its semicolon. -/
theorem recognizeImport_statement (statement : ImportStatement) {behind : List Token}
    (rest : List Token) (starts : startsStatement behind = true) :
    recognizeImport [] ⟨behind, statement.tokens ++ rest⟩ =
      .report { first := behind.length, last := behind.length + 1 + statement.inner.length }
        (1 + statement.inner.length) := by
  -- No semicolon stands within the statement, so the search stops at the one that ends it.
  have unended : statement.inner.findIdx? (Token.isSymbol ';') = none :=
    List.findIdx?_eq_none_iff.mpr fun token listed =>
      Token.isSymbol_eq_false_of_standsInImport (statement.piece.stands token listed)
  have stop : (statement.inner ++ .symbol ';' :: rest).findIdx? (Token.isSymbol ';') =
      some statement.inner.length := by
    simp [List.findIdx?_append, List.findIdx?_cons, unended, Token.isSymbol]
  simp [recognizeImport, ImportStatement.tokens, Token.isWord, Token.isKind, starts, stop,
    Site.index]

/-- After a report the sweep goes on behind the tokens that it took. -/
theorem sweepFrom_report {recognize : Site → Verdict} {behind piece rest : List Token} {span : Span}
    {last : Nat} (length : piece.length = last + 1)
    (reported : recognize ⟨behind, piece ++ rest⟩ = .report span last) :
    sweepFrom recognize behind (piece ++ rest) =
      span :: sweepFrom recognize (piece.reverse ++ behind) rest := by
  -- A report takes its own token and those of its span, and the sweep goes on behind them.
  cases piece with
  | nil => simp at length
  | cons token piece =>
    obtain rfl : piece.length = last := by simpa using length
    rw [List.cons_append] at reported ⊢
    rw [sweepFrom, reported]
    simp

/-- The names of a statement are read off the tokens between its keyword and its semicolon. -/
theorem ImportStatement.importedNames_span (statement : ImportStatement) (behind rest : List Token)
    (significant : ∀ token ∈ statement.tokens, token.isTrivia = false) :
    importedNames (Span.tokens
        { first := behind.length, last := behind.length + 1 + statement.inner.length }
        (behind.reverse ++ (statement.tokens ++ rest))).tail.dropLast = statement.names := by
  -- The span is the statement, and `use` and the semicolon are cut off it.
  have whole : Span.tokens
      { first := behind.length, last := behind.length + 1 + statement.inner.length }
      (behind.reverse ++ (statement.tokens ++ rest)) = statement.tokens := by
    have ahead := Span.tokens_ahead behind (statement.tokens ++ rest) 0
      (1 + statement.inner.length)
    rw [Nat.add_zero, ← Nat.add_assoc, List.drop_zero] at ahead
    rw [ahead, List.take_left']
    simp [ImportStatement.tokens]
    omega
  have inside : statement.tokens.tail.dropLast = statement.inner := by
    simp [ImportStatement.tokens]
  rw [whole, inside]
  exact statement.importedNames_inner fun token listed =>
    significant token (by simp [ImportStatement.tokens, listed])

/-- The sweep reports the statements that lie ahead, with the names that they bring in. -/
theorem flatMap_importedNames_sweepFrom (statements : List ImportStatement) {behind : List Token}
    (starts : startsStatement behind = true)
    (significant : ∀ token ∈ statements.flatMap ImportStatement.tokens, token.isTrivia = false) :
    ((sweepFrom (recognizeImport []) behind (statements.flatMap ImportStatement.tokens)).flatMap
        fun span => importedNames (span.tokens (behind.reverse ++
          statements.flatMap ImportStatement.tokens)).tail.dropLast) =
      statements.flatMap ImportStatement.names := by
  induction statements generalizing behind with
  | nil => simp [sweepFrom]
  | cons statement statements ih =>
    rw [List.flatMap_cons] at significant ⊢
    obtain ⟨own, others⟩ := List.forall_mem_append.mp significant
    have length : statement.tokens.length = 1 + statement.inner.length + 1 := by
      simp [ImportStatement.tokens]
      omega
    -- The semicolon of the statement lets the next one start.
    have ended : startsStatement (statement.tokens.reverse ++ behind) = true := by
      simp [ImportStatement.tokens, startsStatement, startsStatementFrom, Token.isTrivia,
        Token.isSymbol, Token.endsStatement]
    have onward := ih ended others
    rw [List.reverse_append, List.reverse_reverse, List.append_assoc] at onward
    rw [sweepFrom_report length (recognizeImport_statement statement _ starts), List.flatMap_cons,
      statement.importedNames_span behind _ own, onward, List.flatMap_cons]

/-- The names of written statements come in their order. -/
theorem writtenImports_statements {tag : String} {statements : List ImportStatement}
    (significant : ∀ token ∈ statements.flatMap ImportStatement.tokens, token.isTrivia = false) :
    writtenImports (.typed .openTag tag 0 :: statements.flatMap ImportStatement.tokens) =
      statements.flatMap ImportStatement.names := by
  -- No class is named, so no body hides a statement, and the opening tag is passed.
  have bodiless : classBodies (.typed .openTag tag 0 :: statements.flatMap ImportStatement.tokens) =
      [] :=
    classBodies_eq_nil (List.forall_mem_cons.mpr ⟨rfl, significant⟩)
      ((namesNoClass_statements statements).cons rfl)
  have tagged : recognizeImport [] ⟨[], .typed .openTag tag 0 ::
      statements.flatMap ImportStatement.tokens⟩ = .pass 0 := by
    simp [recognizeImport, Token.isWord, Token.isKind]
  have starts : startsStatement [.typed .openTag tag 0] = true := rfl
  have names := flatMap_importedNames_sweepFrom statements starts significant
  rw [List.reverse_singleton, List.singleton_append] at names
  rw [writtenImports, importSpans, bodiless, sweep, sweepFrom_pass tagged, names]

/--
Import statements bring in the names that their items spell out.

The tokens are an opening tag and statements, with any trivia between them.
Asked for in order, the names are sorted by their bytes, repetitions included.
-/
theorem imports_of_written_statements {tokens : List Token} {tag : String}
    {statements : List ImportStatement}
    (written : bare tokens =
      .typed .openTag tag 0 :: statements.flatMap ImportStatement.tokens) :
    imports false tokens = statements.flatMap ImportStatement.names ∧
      (imports true tokens).Perm (statements.flatMap ImportStatement.names) ∧
      (imports true tokens).Pairwise fun left right => bytesOf left ≤ bytesOf right := by
  -- The names are read off the bare tokens, which the statements are.
  have significant : ∀ token ∈ statements.flatMap ImportStatement.tokens,
      token.isTrivia = false := by
    intro token listed
    have left : token ∈ bare tokens := by simp [written, listed]
    exact isTrivia_of_mem_bare left
  have names : writtenImports tokens = statements.flatMap ImportStatement.names := by
    rw [← writtenImports_bare, written, writtenImports_statements significant]
  -- Sorting is by the order of the texts, which is that of their bytes.
  have sorted : imports true tokens = (statements.flatMap ImportStatement.names).mergeSort
      fun left right => decide (left ≤ right) := by
    simp [imports, names]
  have ordered : (imports true tokens).Pairwise fun left right => decide (left ≤ right) = true := by
    rw [sorted]
    exact List.pairwise_mergeSort (by simpa using fun _ _ _ => String.le_trans)
      (by simpa using String.le_total) _
  refine ⟨by simp [imports, names], by rw [sorted]; exact List.mergeSort_perm _ _, ?_⟩
  refine ordered.imp fun {left right} below => ?_
  rcases lt_or_eq_of_le (of_decide_eq_true below) with lower | rfl
  · exact Std.le_of_lt (bytesOf_lt lower)
  · exact Std.le_refl _

/-- An identifier in a name. -/
def NameWord.plain (text : String) (spelled : text ≠ "") : NameWord :=
  -- It has no class of reserved words.
  ⟨none, text, by simp, spelled⟩

/-- A statement with a group, marks, an alias and a rooted name, and a plain one behind it. -/
def groupedStatements : List ImportStatement :=
  -- The group has a comma behind its last member.
  [{ keyword := "use", mark? := some ⟨false, "function"⟩
     items :=
       [.group ⟨false, .plain "M" (by simp), [], by simp [NameWord.plain]⟩
         [⟨some ⟨true, "const"⟩, ⟨false, ⟨some .classWord, "class", by simp, by simp⟩,
             [⟨some .enumWord, "enum", by simp, by simp⟩], by simp⟩, some ⟨"as", "E"⟩, rfl⟩,
          ⟨none, ⟨false, .plain "b" (by simp), [], by simp [NameWord.plain]⟩, none, rfl⟩]
         (by simp) true,
        .single ⟨true, .plain "D" (by simp),
          [⟨some .functionWord, "function", by simp, by simp⟩], by simp [NameWord.plain]⟩ none]
     nonempty := by simp },
   { keyword := "USE", mark? := none
     items := [.single ⟨false, .plain "A" (by simp), [], by simp [NameWord.plain]⟩ none]
     nonempty := by simp }]

/-- Reserved words in names, a comment inside a group and statements in either case. -/
theorem imports_of_written_statements_grouped :
    let tokens : List Token :=
      [.typed .openTag "<?php " 1, .typed (.word .useWord) "use" 1, .typed .whitespace " " 1,
       .typed (.word .functionWord) "function" 1, .typed .whitespace " " 1,
       .typed .identifier "M" 1, .typed .nameSeparator "\\" 1, .symbol '\x7b',
       .typed (.word .constWord) "const" 1, .typed .comment "/* c */" 1,
       .typed (.word .classWord) "class" 1, .typed .nameSeparator "\\" 1,
       .typed (.word .enumWord) "enum" 1, .typed .whitespace " " 1, .typed (.word .asWord) "as" 1,
       .typed .whitespace " " 1, .typed .identifier "E" 1, .symbol ',', .typed .identifier "b" 1,
       .symbol ',', .symbol '\x7d', .symbol ',', .typed .nameSeparator "\\" 1,
       .typed .identifier "D" 1, .typed .nameSeparator "\\" 1,
       .typed (.word .functionWord) "function" 1, .symbol ';', .typed .whitespace "\n" 1,
       .typed (.word .useWord) "USE" 2, .typed .whitespace " " 2, .typed .identifier "A" 2,
       .symbol ';']
    imports false tokens = ["M\\class\\enum", "M\\b", "D\\function", "A"] ∧
      (imports true tokens).Perm ["M\\class\\enum", "M\\b", "D\\function", "A"] ∧
      (imports true tokens).Pairwise fun left right => bytesOf left ≤ bytesOf right := by
  intro tokens
  -- The statements written are those of the sample, and their names are read off it.
  have written : bare tokens =
      .typed .openTag "<?php " 0 :: groupedStatements.flatMap ImportStatement.tokens := by decide
  have names : groupedStatements.flatMap ImportStatement.names =
      ["M\\class\\enum", "M\\b", "D\\function", "A"] := by decide
  have result := imports_of_written_statements written
  rwa [names] at result

end PhpOutline
