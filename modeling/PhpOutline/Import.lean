import PhpOutline.ClassLike

/-! Import statements and the names that they bring in. -/

namespace PhpOutline

/-- Recognizes an import statement from its keyword to its semicolon. -/
def recognizeImport (bodies : List Body) (site : Site) : Verdict :=
  -- Inside the body of a class the same keyword brings in a trait, so bodies are leapt over.
  match site.ahead with
  | [] => .halt
  | token :: after =>
    match bodies.find? fun body => body.contains site.index with
    | some body => .pass (body.closing - site.index)
    | none =>
      if token.isWord .useWord && startsStatement site.behind then
        match after.findIdx? (Token.isSymbol ';') with
        | some stop => .report { first := site.index, last := site.index + 1 + stop } (1 + stop)
        | none => .halt
      else .pass 0

/-- The import statements of a list of tokens. -/
def importSpans (tokens : List Token) : List Span :=
  -- The bodies are found once for the whole list.
  sweep (recognizeImport (classBodies tokens)) tokens

/-- A name without the backslashes at its front. -/
def stripLeadingSeparators (name : String) : String :=
  -- A name that starts at the root is written like any other.
  String.ofList (name.toList.dropWhile (· == '\\'))

/-- Whether a name starts with a backslash. -/
def startsAtRoot (name : String) : Bool :=
  -- Such a name is complete wherever it stands.
  name.toList.head? == some '\\'

/-- A name that does not start at the root has nothing to lose. -/
theorem stripLeadingSeparators_eq_self {name : String} (relative : startsAtRoot name = false) :
    stripLeadingSeparators name = name := by
  -- The first character is no backslash, so nothing is dropped.
  rw [stripLeadingSeparators]
  cases chars : name.toList with
  | nil => rw [List.dropWhile_nil, ← chars, String.ofList_toList]
  | cons char rest =>
    have other : ¬(char == '\\') = true := by simpa [startsAtRoot, chars] using relative
    rw [List.dropWhile_cons, if_neg other, ← chars, String.ofList_toList]

/-- No stripped name starts at the root. -/
theorem startsAtRoot_stripLeadingSeparators (name : String) :
    startsAtRoot (stripLeadingSeparators name) = false := by
  -- Every backslash at the front is dropped, so the induction is on the characters.
  rw [startsAtRoot, stripLeadingSeparators, String.toList_ofList]
  induction name.toList with
  | nil => rfl
  | cons char rest ih =>
    rw [List.dropWhile_cons]
    by_cases separator : (char == '\\') = true
    · rwa [if_pos separator]
    · rw [if_neg separator]
      simpa using separator

/-- One more backslash is lost like the others. -/
theorem stripLeadingSeparators_backslash (name : String) :
    stripLeadingSeparators ("\\" ++ name) = stripLeadingSeparators name := by
  -- The backslash in front is the first character, and it is dropped.
  have chars : ("\\" ++ name).toList = '\\' :: name.toList := by simp
  rw [stripLeadingSeparators, chars, List.dropWhile_cons, if_pos (by rfl), ← stripLeadingSeparators]

/-- What has been read of an import statement. -/
structure ImportState where
  /-- The part before the braces of a group. -/
  stem : String := ""
  /-- The name that is being read. -/
  current : String := ""
  /-- Whether the rest of the item is an alias. -/
  aliased : Bool := false
  /-- The names that are complete, latest first. -/
  names : List String := []

/-- The state after the name that is being read is complete. -/
def ImportState.complete (state : ImportState) : ImportState :=
  -- An item without a name brings nothing in.
  let names :=
    if state.current.isEmpty then state.names
    else stripLeadingSeparators (state.stem ++ state.current) :: state.names
  { state with current := "", aliased := false, names }

/-- The state after one more significant token. -/
def ImportState.read (state : ImportState) (token : Token) : ImportState :=
  -- Braces hold the members of a group, commas part items, and aliases are dropped.
  if token.isSymbol '{' then { state with stem := state.current, current := "", aliased := false }
  else if token.isSymbol '}' then { state.complete with stem := "" }
  else if token.isSymbol ',' then state.complete
  else if token.isWord .asWord then { state with aliased := true }
  else if state.current.isEmpty && (token.isWord .functionWord || token.isWord .constWord) then
    state
  else if state.aliased then state
  else { state with current := state.current ++ token.text }

/-- The names that the inside of one import statement brings in. -/
def importedNames (inner : List Token) : List String :=
  -- The last item has no comma after it.
  let significant := inner.filter fun token => !token.isTrivia
  (significant.foldl ImportState.read {}).complete.names.reverse

/-- The names that the imports of a list of tokens bring in, in source order. -/
def writtenImports (tokens : List Token) : List String :=
  -- The inside of a statement lies between its keyword and its semicolon.
  (importSpans tokens).flatMap fun span => importedNames (span.tokens tokens).tail.dropLast

/-- The names that the imports of a list of tokens bring in, sorted if that is asked for. -/
def imports (sorted : Bool) (tokens : List Token) : List String :=
  -- Sorting keeps repeated names.
  let names := writtenImports tokens
  if sorted then names.mergeSort (fun left right => decide (left ≤ right)) else names

end PhpOutline
