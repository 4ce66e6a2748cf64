import PhpOutline.Proofs.Reach

/-!
Which imports are reported.

An import starts where its keyword starts a statement, outside all class bodies and outside every
earlier import, and it ends on the next semicolon.
Reading the bodies in step with the tokens, each dropped once it is passed, finds the same imports.
-/

namespace PhpOutline

/-- Whether the keyword of an import starts a statement at an index. -/
def opensImport (tokens : List Token) (index : Nat) : Bool :=
  -- The keyword behind a closure does not start a statement.
  tokens[index]?.any (Token.isWord .useWord) && startsStatement (tokens.take index).reverse

/-- The recognizer of imports leaps over a body, or looks for the semicolon behind a keyword. -/
theorem recognizeImport_at (bodies : List Body) {tokens : List Token} {index : Nat}
    (inside : index < tokens.length) :
    recognizeImport bodies (Site.at tokens index) =
      match bodies.find? fun body => body.contains index with
      | some body => .pass (body.closing - index)
      | none =>
        if opensImport tokens index then
          match findFrom (Token.isSymbol ';') tokens (index + 1) with
          | some stop => .report { first := index, last := stop } (stop - index)
          | none => .halt
        else .pass 0 := by
  have present : tokens[index]? = some tokens[index] := List.getElem?_eq_getElem inside
  have ahead : (Site.at tokens index).ahead = tokens[index] :: tokens.drop (index + 1) :=
    List.drop_eq_getElem_cons inside
  have behind : (Site.at tokens index).behind = (tokens.take index).reverse := rfl
  rw [recognizeImport, ahead, Site.index_at (Nat.le_of_lt inside), behind]
  simp only [opensImport, present, Option.any_some]
  cases bodies.find? fun body => body.contains index with
  | some body => rfl
  | none =>
    -- The search behind the keyword counts from there, and the other one from the front.
    cases found : (tokens.drop (index + 1)).findIdx? (Token.isSymbol ';') with
    | none => simp [findFrom, found]
    | some offset =>
      have places : index + 1 + offset = offset + (index + 1) := by omega
      have lengths : 1 + offset = offset + (index + 1) - index := by omega
      simp [findFrom, found, places, lengths]

/-- The bodies of classes come in the order of their opening braces. -/
theorem classBodies_ordered (tokens : List Token) :
    (classBodies tokens).Pairwise fun earlier later => earlier.opening < later.opening := by
  -- The brace spans are disjoint and in order, and each body opens where its span begins.
  have braces := classBraceSpans_inOrder tokens
  rw [classBodies, List.pairwise_map]
  refine braces.disjoint.imp_of_mem fun {earlier later} listed _ apart => ?_
  exact Nat.lt_of_le_of_lt (braces.bounded earlier listed).1 apart

/-- No earlier import holds an index at which the sweep reports one. -/
theorem lt_first_of_mem_importSpans {tokens : List Token} {span other : Span}
    (listed : span ∈ importSpans tokens) (known : other ∈ importSpans tokens)
    (earlier : other.first < span.first) : other.last < span.first := by
  -- Two reported spans lie apart, and the one that starts earlier lies before.
  have ordered := importSpans_inOrder tokens
  have bounded := (ordered.bounded span listed).1
  rcases ordered.apart known listed with before | behind | rfl
  · exact before
  · have reversed := (ordered.bounded other known).1
    omega
  · omega

/-- What the tokens and the class bodies around an index say when an import starts there. -/
structure StartsImport (tokens : List Token) (start : Nat) : Prop where
  keyword : ∃ token, tokens[start]? = some token ∧ token.isWord .useWord = true
  /-- Attributes and trivia aside, a statement or a block ends or opens right before the keyword. -/
  statement : startsStatement (tokens.take start).reverse = true
  /-- The braces of a body belong to it. -/
  outside : ∀ body ∈ classBodies tokens, body.contains start = false
  semicolon : ∃ stop, start < stop ∧ tokens[stop]? = some (.symbol ';')

/-- A reported import starts as the tokens around it say, and ends on the next semicolon. -/
theorem startsImport_of_mem {tokens : List Token} {span : Span}
    (listed : span ∈ importSpans tokens) :
    StartsImport tokens span.first ∧
      findFrom (Token.isSymbol ';') tokens (span.first + 1) = some span.last := by
  -- A span was reported at its own start: outside the bodies, at a `use` that has a semicolon.
  obtain ⟨start, last, inside, reported⟩ := mem_sweep listed
  rw [recognizeImport_at _ inside] at reported
  split at reported
  · simp at reported
  · rename_i apart
    split at reported
    · rename_i opens
      split at reported
      · rename_i stop found
        obtain ⟨rfl, -⟩ := Verdict.report.inj reported
        simp only [opensImport, Bool.and_eq_true, Option.any_eq_true] at opens
        obtain ⟨keyword, statement⟩ := opens
        -- The semicolon found is the one the statement asks for.
        obtain ⟨later, ⟨token, present, ends⟩, -⟩ := findFrom_spec found
        rw [Token.isSymbol_iff.mp ends] at present
        refine ⟨⟨keyword, statement, ?_, stop, later, present⟩, found⟩
        simpa [List.find?_eq_none] using apart
      · simp at reported
    · simp at reported

/-- Where an import starts, one is reported, unless an earlier import holds the keyword. -/
theorem mem_importSpans_of_startsImport {tokens : List Token} {start : Nat}
    (starts : StartsImport tokens start)
    (free : ∀ span ∈ importSpans tokens, span.first < start → span.last < start) :
    ∃ span ∈ importSpans tokens, span.first = start := by
  obtain ⟨keyword, present, keyed⟩ := starts.keyword
  obtain ⟨stop, later, semicolon⟩ := starts.semicolon
  have inside := (List.getElem?_eq_some_iff.mp present).1
  have ends : Token.isSymbol ';' (.symbol ';') = true := rfl
  rcases sweepReaches_or_passed (Nat.zero_le start) inside with
    reached | ⟨place, stands, before, covers⟩
  · -- The sweep stands at the keyword, and the semicolon lets it report.
    obtain ⟨first, -, found⟩ := exists_findFrom_le later semicolon ends
    have apart : (classBodies tokens).find? (fun body => body.contains start) = none := by
      simpa [List.find?_eq_none] using starts.outside
    have opens : opensImport tokens start = true := by
      simp [opensImport, present, keyed, starts.statement]
    refine ⟨{ first := start, last := first }, ?_, rfl⟩
    refine mem_sweep_iff.mpr ⟨start, first - start, reached, inside, ?_⟩
    rw [recognizeImport_at _ inside, apart, opens, found]
    rfl
  · -- What passes over the keyword is a body, an import or the end of the sweep.
    exfalso
    have within : place < tokens.length := Nat.lt_trans before inside
    have decided := recognizeImport_at (classBodies tokens) within
    split at decided
    · rename_i body holder
      have holds := List.find?_some holder
      have short := covers _ (by rw [decided]; rfl)
      have clear := starts.outside body (List.mem_of_find?_eq_some holder)
      simp only [Body.contains, Bool.and_eq_true, decide_eq_true_eq] at holds
      simp only [Body.contains, Bool.and_eq_false_iff, decide_eq_false_iff_not] at clear
      omega
    · split at decided
      · split at decided
        · rename_i last found
          have reach := covers _ (by rw [decided]; rfl)
          have beyond := (findFrom_spec found).1
          have reported := mem_sweep_iff.mpr ⟨place, _, stands, within, decided⟩
          have short := free _ reported before
          simp only at short
          omega
        · -- Without a semicolon behind the place there is none behind the keyword either.
          rename_i missing
          obtain ⟨first, -, found⟩ := exists_findFrom_le (by omega : place + 1 ≤ stop)
            semicolon ends
          simp [missing] at found
      · have reach := covers 0 (by rw [decided]; rfl)
        omega

/-- The bodies that do not end before an index, where the first of them decides. -/
def bodiesLeft (bodies : List Body) (index : Nat) : List Body :=
  -- A body behind one that is kept may end before the index and is kept all the same.
  bodies.dropWhile fun body => body.closing < index

/-- The body that the first of the bodies left has opened at an index, if it has. -/
def enteredBody? (bodies : List Body) (index : Nat) : Option Body :=
  -- That it does not end before the index is known.
  (bodiesLeft bodies index).head?.filter fun body => body.opening ≤ index

/-- The body that is entered holds the index. -/
theorem contains_of_enteredBody? {bodies : List Body} {index : Nat} {body : Body}
    (entered : enteredBody? bodies index = some body) : body.contains index = true := by
  -- The body opened before the index, and those that closed before it have been dropped.
  obtain ⟨first, opened⟩ := Option.filter_eq_some_iff.mp entered
  have kept := List.head?_dropWhile_not (fun body : Body => decide (body.closing < index)) bodies
  rw [bodiesLeft] at first
  simp only [first, decide_eq_false_iff_not, Nat.not_lt] at kept
  simp only [Body.contains, Bool.and_eq_true, decide_eq_true_eq]
  exact ⟨by simpa using opened, kept⟩

/--
The imports from an index on, read in step with the bodies that are left.

A body that was dropped is never looked at again.
-/
def mergeImports (tokens : List Token) (bodies : List Body) (index : Nat) : List Span :=
  -- Each round leaps over a body, reports an import or passes over one token.
  if _ : index < tokens.length then
    match entered : enteredBody? bodies index with
    | some body => mergeImports tokens (bodiesLeft bodies index) (body.closing + 1)
    | none =>
      if opensImport tokens index then
        match found : findFrom (Token.isSymbol ';') tokens (index + 1) with
        | some stop =>
          { first := index, last := stop } ::
            mergeImports tokens (bodiesLeft bodies index) (stop + 1)
        | none => []
      else mergeImports tokens (bodiesLeft bodies index) (index + 1)
  else []
termination_by tokens.length - index
decreasing_by
  · have holds := contains_of_enteredBody? entered
    simp only [Body.contains, Bool.and_eq_true, decide_eq_true_eq] at holds
    omega
  · have later := (findFrom_spec found).1
    omega
  · omega

/-- Among bodies in order, the one that is entered is the first that holds the index. -/
theorem enteredBody?_eq_find? {bodies : List Body} (index : Nat)
    (ordered : bodies.Pairwise fun earlier later => earlier.opening < later.opening) :
    enteredBody? bodies index = bodies.find? fun body => body.contains index := by
  induction bodies with
  | nil => rfl
  | cons body bodies ih =>
    obtain ⟨later, ordered⟩ := List.pairwise_cons.mp ordered
    by_cases passed : body.closing < index
    · -- A body that ends before the index does not hold it.
      have dropped : enteredBody? (body :: bodies) index = enteredBody? bodies index := by
        simp [enteredBody?, bodiesLeft, passed]
      rw [dropped, ih ordered, List.find?_cons_of_neg (by simp [Body.contains, passed])]
    · have kept : enteredBody? (body :: bodies) index =
          (some body).filter fun body => body.opening ≤ index := by
        simp [enteredBody?, bodiesLeft, passed]
      rw [kept]
      by_cases opened : body.opening ≤ index
      · rw [List.find?_cons_of_pos (by simp [Body.contains, opened]; omega)]
        simp [opened]
      · -- All later bodies open even further behind the index.
        rw [Option.filter_some_neg (by simpa using opened), eq_comm, List.find?_eq_none]
        intro other listed
        have beyond : body.opening ≤ other.opening := by
          rcases List.mem_cons.mp listed with rfl | listed
          · exact Nat.le_refl _
          · exact Nat.le_of_lt (later other listed)
        simp only [Body.contains, Bool.and_eq_true, decide_eq_true_eq]
        omega

/-- Bodies that end before an index hold no later one. -/
theorem find?_bodiesLeft (bodies : List Body) {index place : Nat} (further : index ≤ place) :
    (bodiesLeft bodies index).find? (fun body => body.contains place) =
      bodies.find? fun body => body.contains place := by
  -- A body dropped closed before the index, so it holds no place from there on.
  induction bodies with
  | nil => rfl
  | cons body bodies ih =>
    by_cases passed : body.closing < index
    · have dropped : bodiesLeft (body :: bodies) index = bodiesLeft bodies index := by
        simp [bodiesLeft, passed]
      have apart : body.contains place = false := by
        simp only [Body.contains, Bool.and_eq_false_iff, decide_eq_false_iff_not]
        omega
      rw [dropped, ih, List.find?_cons_of_neg (by simp [apart])]
    · simp [bodiesLeft, passed]

/-- Two lists of bodies, the first one in order, that hold the same indices further on. -/
structure BodiesAlike (bodies others : List Body) (index : Nat) : Prop where
  ordered : bodies.Pairwise fun earlier later => earlier.opening < later.opening
  find?_eq : ∀ place, index ≤ place → bodies.find? (fun body => body.contains place) =
    others.find? fun body => body.contains place

/-- What is dropped at an index lies behind every later one. -/
theorem BodiesAlike.left {bodies others : List Body} {index next : Nat}
    (alike : BodiesAlike bodies others index) (later : index ≤ next) :
    BodiesAlike (bodiesLeft bodies index) others next where
  ordered := alike.ordered.sublist (List.dropWhile_sublist _)
  find?_eq := by
    intro place further
    -- The bodies dropped hold none of the places still ahead.
    rw [find?_bodiesLeft bodies (by omega), alike.find?_eq place (by omega)]

/-- The body that is entered decides what the recognizer does. -/
theorem BodiesAlike.recognizeImport_at {bodies others : List Body} {tokens : List Token}
    {index : Nat} (alike : BodiesAlike bodies others index) (inside : index < tokens.length) :
    recognizeImport others (Site.at tokens index) =
      match enteredBody? bodies index with
      | some body => .pass (body.closing - index)
      | none =>
        if opensImport tokens index then
          match findFrom (Token.isSymbol ';') tokens (index + 1) with
          | some stop => .report { first := index, last := stop } (stop - index)
          | none => .halt
        else .pass 0 := by
  rw [PhpOutline.recognizeImport_at others inside, ← alike.find?_eq index (Nat.le_refl index),
    enteredBody?_eq_find? index alike.ordered]

/-- Reading in step with the bodies that are left finds what a sweep past all bodies finds. -/
theorem mergeImports_eq_sweepAt {tokens : List Token} {bodies others : List Body} {index : Nat}
    (alike : BodiesAlike bodies others index) :
    mergeImports tokens bodies index = sweepAt (recognizeImport others) tokens index := by
  -- Along the merge: the bodies still kept answer for every place ahead as all of them do.
  fun_induction mergeImports tokens bodies index with
  | case1 bodies index inside body entered ih =>
    -- Inside a body: both go on behind its closing brace.
    have holds := contains_of_enteredBody? entered
    simp only [Body.contains, Bool.and_eq_true, decide_eq_true_eq] at holds
    rw [ih (alike.left (by omega)), sweepAt_step inside, alike.recognizeImport_at inside, entered]
    simp only
    congr 1
    omega
  | case2 bodies index inside entered opens stop found ih =>
    -- An import with its semicolon: both report it and go on behind the semicolon.
    have later := (findFrom_spec found).1
    rw [ih (alike.left (by omega)), sweepAt_step inside, alike.recognizeImport_at inside, entered,
      opens, found]
    simp only [if_true]
    congr 2
    omega
  | case3 bodies index inside entered opens missing =>
    -- An import that nothing ends: both stop.
    rw [sweepAt_step inside, alike.recognizeImport_at inside, entered, opens, missing]
    rfl
  | case4 bodies index inside entered closed ih =>
    -- No import starts here: both go on one token further.
    rw [ih (alike.left (by omega)), sweepAt_step inside, alike.recognizeImport_at inside, entered,
      if_neg closed]
  | case5 bodies index outside => exact (sweepAt_end (by omega)).symm

/--
The imports are exactly the statements that start with their keyword outside class bodies.

Such a statement starts in no earlier import, a semicolon follows its keyword, and it ends on the
next one.
Reading the tokens in step with the bodies, each dropped once it is passed, gives the same list.
-/
theorem imports_reported_exactly (tokens : List Token) :
    mergeImports tokens (classBodies tokens) 0 = importSpans tokens ∧
    (∀ start, (∃ span ∈ importSpans tokens, span.first = start) ↔
      StartsImport tokens start ∧
        ∀ span ∈ importSpans tokens, span.first < start → span.last < start) ∧
    ∀ span ∈ importSpans tokens,
      findFrom (Token.isSymbol ';') tokens (span.first + 1) = some span.last := by
  refine ⟨?_, fun start => ⟨?_, ?_⟩, fun span listed => (startsImport_of_mem listed).2⟩
  · -- The merge starts with all the bodies.
    rw [importSpans, sweep_eq_sweepAt]
    exact mergeImports_eq_sweepAt ⟨classBodies_ordered tokens, fun _ _ => rfl⟩
  · -- A span reported starts an import, and every earlier one ends before it.
    rintro ⟨span, listed, rfl⟩
    exact ⟨(startsImport_of_mem listed).1,
      fun other known earlier => lt_first_of_mem_importSpans listed known earlier⟩
  · -- An import that no earlier one covers is reached and reported.
    rintro ⟨starts, free⟩
    exact mem_importSpans_of_startsImport starts free

end PhpOutline
