import Mathlib
import PhpOutline.Proofs.Parts

/-!
The spans of the methods do not depend on the body of any of them.

In front of a body no search reads that far, and behind it none looks back over the closing brace.
So the methods in front stay where they are, and those behind move with the brace.
-/

namespace PhpOutline

/-- Tokens with a body between braces, with something in front of it and something behind it. -/
def withBody (front body back : List Token) : List Token :=
  -- The opening brace stands at the index that the front is long.
  front ++ .symbol '{' :: (body ++ .symbol '}' :: back)

/-- A method of a list whose body stands between given braces. -/
structure HasBody (front body back : List Token) (span : Span) (mark : Nat) : Prop where
  listed : span ∈ methodSpans (withBody front body back)
  marked : span.mark? = some mark
  /-- The brace in front of the body is the first brace or semicolon behind closed parameters. -/
  opens : ∃ parameters close,
    findFrom (Token.isSymbol '(') (withBody front body back) (mark + 1) = some parameters ∧
    closerAt? (withBody front body back) parameters = some close ∧
    findFrom (fun token => token.isSymbol '{' || token.isSymbol ';') (withBody front body back)
      (close + 1) = some front.length
  /-- The method ends with the brace behind the body. -/
  ends : span.last = front.length + 1 + body.length

/-- Where an index moves to when the tokens behind a place change in number. -/
def movedIndex (place old new index : Nat) : Nat :=
  -- Up to the place nothing moves.
  if index ≤ place then index else index - old + new

/-- Where a span moves to when the tokens behind a place change in number. -/
def Span.moved (place old new : Nat) (span : Span) : Span :=
  -- Each index moves on its own.
  { first := movedIndex place old new span.first
    last := movedIndex place old new span.last
    mark? := span.mark?.map (movedIndex place old new) }

/-- Nothing moves in front of the place. -/
theorem movedIndex_of_le {place old new index : Nat} (before : index ≤ place) :
    movedIndex place old new index = index :=
  if_pos before

/-- Behind the place an index moves by as much as the tokens change in number. -/
theorem movedIndex_of_lt {place old new index : Nat} (behind : place < index) :
    movedIndex place old new index = index - old + new :=
  if_neg (by omega)

/-- A span in front of the place stays where it is. -/
theorem Span.moved_of_le {place old new : Nat} {span : Span} (ordered : span.first ≤ span.last)
    (before : span.last ≤ place) (inner : ∀ mark, span.mark? = some mark → mark ≤ place) :
    span.moved place old new = span := by
  -- Nothing of the span lies behind the place, so no index of it moves.
  have kept : span.mark?.map (movedIndex place old new) = span.mark? := by
    cases marked : span.mark? with
    | none => rfl
    | some mark => rw [Option.map_some, movedIndex_of_le (inner mark marked)]
  rw [Span.moved, movedIndex_of_le before, movedIndex_of_le (by omega), kept]

section

variable {front body other back : List Token}

/-- Up to the opening brace the front stands. -/
theorem getElem?_withBody_of_lt {index : Nat} (before : index < front.length) :
    (withBody front body back)[index]? = front[index]? :=
  List.getElem?_append_left before

/-- Behind the front stands the opening brace. -/
theorem getElem?_withBody_brace :
    (withBody front body back)[front.length]? = some (.symbol '{') := by
  simp [withBody]

/-- Up to a place in the front all lists with the front are the same. -/
theorem take_withBody {index : Nat} (before : index ≤ front.length) :
    (withBody front body back).take index = front.take index :=
  List.take_append_of_le_length before

/-- From a place in the front on stands its rest, with all that follows. -/
theorem drop_withBody {index : Nat} (before : index ≤ front.length) :
    (withBody front body back).drop index = withBody (front.drop index) body back :=
  List.drop_append_of_le_length before

/-- The back follows everything up to the closing brace. -/
theorem withBody_eq_append :
    withBody front body back =
      (front ++ Token.symbol '{' :: (body ++ [Token.symbol '}'])) ++ back := by
  simp [withBody]

/-- Behind the closing brace stands the back. -/
theorem drop_withBody_back (index : Nat) :
    (withBody front body back).drop (front.length + 1 + body.length + 1 + index) =
      back.drop index := by
  -- The front, the two braces and the body are dropped before anything of the back.
  rw [withBody_eq_append, List.drop_append, List.drop_eq_nil_of_le (by simp; omega),
    List.nil_append]
  congr 1
  simp
  omega

/-- Up to a place behind the closing brace stand the front, the body and a part of the back. -/
theorem take_withBody_back (index : Nat) :
    (withBody front body back).take (front.length + 1 + body.length + 1 + index) =
      withBody front body (back.take index) := by
  -- The front, the two braces and the body are kept before anything of the back.
  rw [withBody_eq_append, withBody_eq_append, List.take_append,
    List.take_of_length_le (by simp; omega)]
  congr 2
  simp
  omega

/-- A span that ends with the closing brace has the end of the front and the body. -/
theorem Span.tokens_withBody {span : Span} (begun : span.first ≤ front.length)
    (ends : span.last = front.length + 1 + body.length) :
    span.tokens (withBody front body back) = withBody (front.drop span.first) body [] := by
  rw [Span.tokens, ends, ← Nat.add_zero (front.length + 1 + body.length + 1), take_withBody_back,
    List.take_zero, drop_withBody begun]

/-- Balanced tokens between the braces are closed by the second one. -/
theorem closerAt?_withBody (balanced : Balanced .curly body) :
    closerAt? (withBody front body back) front.length = some (front.length + 1 + body.length) := by
  -- The opening brace stands behind the front, and a balanced body never closes it.
  have ahead : (withBody front body back).drop front.length =
      .symbol Delimiter.curly.opener :: (body ++ .symbol Delimiter.curly.closer :: back) := by
    simp [withBody, Delimiter.opener, Delimiter.closer]
  simp only [closerAt?, ahead, openedBy?_eq_some_iff.mpr ⟨_, rfl⟩,
    closerOffset?_balanced balanced back, Option.map_some, Option.some.injEq]
  omega

end

/-- A method starts at its mark or in front of it, and ends behind it. -/
theorem recognizeMethod_first_le {tokens : List Token} {index last : Nat} {span : Span}
    (inside : index < tokens.length)
    (reported : recognizeMethod (Site.at tokens index) = .report span last) :
    span.first ≤ span.last := by
  -- Modifiers come before the keyword, and the declaration ends behind it.
  obtain ⟨_, _, _, _, -, -, -, -, -, rfl, -⟩ := recognizeMethod_report reported
  rw [Site.index_at (Nat.le_of_lt inside)]
  show index - _ ≤ index + 1 + _
  omega

/-- The spans of a verdict, changed. -/
def Verdict.mapSpan (change : Span → Span) : Verdict → Verdict
  -- Where the sweep goes on is not changed.
  | .pass last => .pass last
  | .report span last => .report (change span) last
  | .halt => .halt

section

variable {front body other back : List Token}

/-- Behind the closing brace the same methods are recognized, whatever the body. -/
theorem recognizeMethod_behind {index : Nat} (inside : index ≤ back.length) :
    recognizeMethod (Site.at (withBody front other back)
        (front.length + 1 + other.length + 1 + index)) =
      (recognizeMethod (Site.at (withBody front body back)
        (front.length + 1 + body.length + 1 + index))).mapSpan
          (Span.moved front.length body.length other.length) := by
  -- Behind the site stands a run of the back, and then the brace that nothing looks over.
  have behind : ∀ part : List Token, (withBody front part (back.take index)).reverse =
      (back.take index).reverse ++
        Token.symbol '}' :: (part.reverse ++ Token.symbol '{' :: front.reverse) := by
    intro part
    simp [withBody]
  have short : leadingLength Token.isMethodModifier (back.take index).reverse ≤ index := by
    refine Nat.le_trans (leadingLength_le _ _) ((List.takeWhile_sublist _).length_le.trans ?_)
    simp
  have place : ∀ part : List Token,
      ((back.take index).reverse ++
        Token.symbol '}' :: (part.reverse ++ Token.symbol '{' :: front.reverse)).length =
        front.length + 1 + part.length + 1 + index := by
    intro part
    simp
    omega
  have lead : ∀ deep : List Token,
      leadingLength Token.isMethodModifier ((back.take index).reverse ++ Token.symbol '}' :: deep) =
        leadingLength Token.isMethodModifier (back.take index).reverse :=
    leadingLength_barrier (by decide) _
  have use : ∀ deep : List Token,
      followsUse ((back.take index).reverse ++ Token.symbol '}' :: deep) =
        followsUse ((back.take index).reverse ++ [Token.symbol '}']) :=
    followsUse_barrier (by decide) _
  generalize leadingLength Token.isMethodModifier (back.take index).reverse = leading at *
  simp only [recognizeMethod, Site.at, Site.index, take_withBody_back, drop_withBody_back, behind,
    place, lead, use]
  split
  · rfl
  · split
    · split
      · rename_i stop _
        -- Every index of the span lies behind the body, and moves with it.
        simp only [Verdict.mapSpan, Span.moved, Option.map_some, Verdict.report.injEq,
          Span.mk.injEq, Option.some.injEq, and_true]
        rw [movedIndex_of_lt (by omega), movedIndex_of_lt (by omega), movedIndex_of_lt (by omega)]
        omega
      · rfl
    · rfl

/-- Behind the closing brace the same methods are found, whatever the body. -/
theorem sweepAt_behind (index : Nat) :
    sweepAt recognizeMethod (withBody front other back)
        (front.length + 1 + other.length + 1 + index) =
      (sweepAt recognizeMethod (withBody front body back)
        (front.length + 1 + body.length + 1 + index)).map
          (Span.moved front.length body.length other.length) := by
  have size : ∀ part : List Token,
      (withBody front part back).length = front.length + 1 + part.length + 1 + back.length := by
    intro part
    simp [withBody]
    omega
  -- The induction is on the tokens of the back that the sweep has not passed yet.
  induction remaining : back.length - index using Nat.strongRecOn generalizing index with
  | ind _ ih =>
    rcases Nat.lt_or_ge index back.length with inside | ended
    · have onward : ∀ last, sweepAt recognizeMethod (withBody front other back)
            (front.length + 1 + other.length + 1 + index + (last + 1)) =
          (sweepAt recognizeMethod (withBody front body back)
            (front.length + 1 + body.length + 1 + index + (last + 1))).map
              (Span.moved front.length body.length other.length) := by
        intro last
        simpa only [Nat.add_assoc] using ih _ (by omega) (index + (last + 1)) rfl
      rw [sweepAt_step (by rw [size]; omega), sweepAt_step (by rw [size]; omega),
        recognizeMethod_behind (Nat.le_of_lt inside)]
      cases recognizeMethod (Site.at (withBody front body back)
        (front.length + 1 + body.length + 1 + index)) with
      | pass last => exact onward last
      | report span last => simp only [Verdict.mapSpan, List.map_cons, onward]
      | halt => rfl
    · rw [sweepAt_end (by rw [size]; omega), sweepAt_end (by rw [size]; omega)]
      rfl

end

namespace HasBody

variable {front body other back : List Token} {span : Span} {mark : Nat}

/-- The parameters of the method are closed in the front, and found there whatever follows. -/
theorem parameters (own : HasBody front body back span mark) :
    ∃ parameters close, mark < parameters ∧ parameters < close ∧ close < front.length ∧
      front[parameters]? = some (.symbol '(') ∧
      ∀ other rest : List Token,
        findFrom (Token.isSymbol '(') (withBody front other rest) (mark + 1) = some parameters ∧
        closerAt? (withBody front other rest) parameters = some close ∧
        findFrom (fun token => token.isSymbol '{' || token.isSymbol ';')
          (withBody front other rest) (close + 1) = some front.length := by
  obtain ⟨parameters, close, opened, closed, reached⟩ := own.opens
  obtain ⟨later, ⟨token, present, parenthesis⟩, -⟩ := findFrom_spec opened
  obtain ⟨-, -, further, -⟩ := closerAt?_spec closed
  obtain ⟨behind, -, -⟩ := findFrom_spec reached
  rw [getElem?_withBody_of_lt (by omega), Token.isSymbol_iff.mp parenthesis] at present
  refine ⟨parameters, close, by omega, further, by omega, present, fun other rest => ?_⟩
  -- All three searches end with the opening brace or in front of it.
  have split : ∀ part rest : List Token, withBody front part rest =
      (front ++ [Token.symbol '{']) ++ (part ++ Token.symbol '}' :: rest) := by
    intro part rest
    simp [withBody]
  have long : (front ++ [Token.symbol '{']).length = front.length + 1 := by simp
  rw [split] at opened closed reached ⊢
  exact ⟨findFrom_within opened (by omega), closerAt?_within closed (by omega),
    findFrom_within reached (by omega)⟩

/-- What the recognizer saw at the mark of the method stands in the front. -/
theorem declaration (own : HasBody front body back span mark) :
    ∃ keyword, front[mark]? = some keyword ∧ keyword.isWord .functionWord = true ∧
      followsUse (front.take mark).reverse = false ∧
      (functionNameOffset ((withBody front body back).drop (mark + 1))).isSome = true ∧
      span.first = mark - leadingLength Token.isMethodModifier (front.take mark).reverse := by
  -- The parameters lie in the front, so the keyword does too, with all that is behind it.
  obtain ⟨parameters, close, later, further, bounded, -, -⟩ := own.parameters
  obtain ⟨index, last, inside, reported⟩ := mem_sweep own.listed
  obtain ⟨placed, -⟩ := recognizeMethod_mark inside reported
  obtain rfl : mark = index := Option.some.inj (own.marked.symm.trans placed)
  obtain ⟨keyword, after, name, stop, ahead, keyed, apart, named, -, rfl, -⟩ :=
    recognizeMethod_report reported
  obtain ⟨-, present, rfl⟩ := Site.ahead_at_eq_cons ahead
  rw [getElem?_withBody_of_lt (by omega)] at present
  have behind : (Site.at (withBody front body back) mark).behind = (front.take mark).reverse :=
    congrArg List.reverse (take_withBody (by omega))
  rw [behind] at apart
  rw [Site.index_at (Nat.le_of_lt inside), behind]
  exact ⟨keyword, present, keyed, apart, by rw [named]; rfl, rfl⟩

/-- The method starts in the front, up to its mark. -/
theorem bounds (own : HasBody front body back span mark) :
    span.first ≤ mark ∧ mark < front.length := by
  -- The keyword comes before the parameters, and these close in the front.
  obtain ⟨_, _, later, further, bounded, -⟩ := own.parameters
  obtain ⟨_, -, -, -, -, first⟩ := own.declaration
  omega

/-- The mark of the method lies inside the list, whatever the body. -/
theorem inside (own : HasBody front body back span mark) (part : List Token) :
    mark < (withBody front part back).length := by
  -- The keyword stands in the front, whatever comes behind.
  have bound := own.bounds.2
  simp only [withBody, List.length_append]
  omega

/-- With another body in place of its own, only the end of the method moves. -/
theorem moved_eq (own : HasBody front body back span mark) (other : List Token) :
    span.moved front.length body.length other.length =
      { first := span.first, last := front.length + 1 + other.length, mark? := some mark } := by
  -- Only the last index lies behind the opening brace.
  obtain ⟨begun, inside⟩ := own.bounds
  have last : movedIndex front.length body.length other.length span.last =
      front.length + 1 + other.length := by
    rw [own.ends, movedIndex_of_lt (by omega)]
    omega
  rw [Span.moved, own.marked, last, Option.map_some, movedIndex_of_le (by omega),
    movedIndex_of_le (by omega)]

/-- With a balanced body in place of its own, the method ends with the brace behind it. -/
theorem declarationEnd_eq (own : HasBody front body back span mark)
    (balanced : Balanced .curly other) (rest : List Token) :
    declarationEnd ((withBody front other rest).drop (mark + 1)) =
      some (front.length + 1 + other.length - (mark + 1)) := by
  -- Parameters and opening brace stay where they are, and the other body is closed too.
  obtain ⟨parameters, close, -, -, -, -, found⟩ := own.parameters
  obtain ⟨opened, closed, reached⟩ := found other rest
  exact declarationEnd_drop opened closed reached getElem?_withBody_brace
    (closerAt?_withBody balanced)

/-- With a balanced body in place of its own, the method is recognized at the same mark. -/
theorem recognize (own : HasBody front body back span mark) (balanced : Balanced .curly other) :
    recognizeMethod (Site.at (withBody front other back) mark) =
      .report (span.moved front.length body.length other.length)
        (front.length + 1 + other.length - mark) := by
  obtain ⟨parameters, close, later, further, bounded, parenthesis, -⟩ := own.parameters
  obtain ⟨keyword, present, keyed, apart, named, first⟩ := own.declaration
  have ended := own.declarationEnd_eq balanced back
  have ahead : (withBody front other back).drop mark =
      keyword :: (withBody front other back).drop (mark + 1) :=
    drop_eq_cons_of_getElem? (by rwa [getElem?_withBody_of_lt (by omega)])
  -- The parenthesis of the parameters ends the search for the name.
  have name : (functionNameOffset ((withBody front other back).drop (mark + 1))).isSome = true := by
    have standing : (front.drop (mark + 1))[parameters - (mark + 1)]? = some (.symbol '(') := by
      rwa [List.getElem?_drop, show mark + 1 + (parameters - (mark + 1)) = parameters by omega]
    rw [drop_withBody (by omega)] at named ⊢
    rwa [withBody, functionNameOffset, nameOffset_within standing rfl rfl]
  have before : mark ≤ front.length := by omega
  rw [own.moved_eq, first]
  simp only [recognizeMethod, Site.at, Site.index, ahead, take_withBody before, keyed, apart, name,
    ended, List.length_reverse, List.length_take, Nat.min_eq_left before]
  simp
  omega

/-- A sweep that finds the method has not passed its mark, and reports it there. -/
theorem reported_at_mark (own : HasBody front body back span mark) {index : Nat}
    (listed : span ∈ sweepAt recognizeMethod (withBody front body back) index) :
    index ≤ mark ∧
      ∃ last, recognizeMethod (Site.at (withBody front body back) mark) = .report span last := by
  -- A method is reported at its mark, which is the one site that can report the span.
  obtain ⟨start, last, beyond, within, reported⟩ := mem_sweepAt listed
  obtain ⟨placed, -⟩ := recognizeMethod_mark within reported
  obtain rfl : mark = start := Option.some.inj (own.marked.symm.trans placed)
  exact ⟨beyond, last, reported⟩

/-- What is reported in front of the mark ends in front of it. -/
theorem reported_before (own : HasBody front body back span mark) {index last : Nat} {report : Span}
    (earlier : index < mark)
    (listed : span ∈ sweepAt recognizeMethod (withBody front body back) index)
    (reported : recognizeMethod (Site.at (withBody front body back) index) = .report report last) :
    index + last < mark ∧
      span ∈ sweepAt recognizeMethod (withBody front body back) (index + (last + 1)) := by
  have within : index < (withBody front body back).length := Nat.lt_trans earlier (own.inside body)
  simp only [sweepAt_step within, reported, List.mem_cons] at listed
  rcases listed with rfl | found
  · -- The method itself is reported at its own mark only.
    obtain ⟨placed, -⟩ := recognizeMethod_mark within reported
    have := Option.some.inj (own.marked.symm.trans placed)
    omega
  · have := (own.reported_at_mark found).1
    exact ⟨by omega, found⟩

/-- In front of the mark nothing depends on the body. -/
theorem recognize_before (own : HasBody front body back span mark) {index : Nat}
    (earlier : index < mark)
    (listed : span ∈ sweepAt recognizeMethod (withBody front body back) index) :
    recognizeMethod (Site.at (withBody front other back) index) =
      recognizeMethod (Site.at (withBody front body back) index) := by
  -- What the sweep asks of an earlier site is decided before the body, and the parameters are still
  -- ahead.
  obtain ⟨parameters, close, later, further, bounded, parenthesis, -⟩ := own.parameters
  obtain ⟨keyword, present, keyed, -⟩ := own.declaration
  obtain ⟨text, line, rfl⟩ := Token.isWord_iff.mp keyed
  refine recognizeMethod_within earlier present rfl rfl ?_ fun report last reported =>
    (own.reported_before earlier listed reported).1
  apply List.mem_of_getElem? (i := parameters - (index + 1))
  rwa [List.getElem?_drop, show index + 1 + (parameters - (index + 1)) = parameters by omega]

/-- From any index on from which the method is found, the same methods are found. -/
theorem sweepAt_moved (own : HasBody front body back span mark) (balanced : Balanced .curly other)
    {index : Nat} (listed : span ∈ sweepAt recognizeMethod (withBody front body back) index) :
    sweepAt recognizeMethod (withBody front other back) index =
      (sweepAt recognizeMethod (withBody front body back) index).map
        (Span.moved front.length body.length other.length) := by
  -- The induction is on the distance to the mark, up to which no search reaches the body.
  induction distance : mark - index using Nat.strongRecOn generalizing index with
  | ind _ ih =>
    obtain ⟨begun, last, atMark⟩ := own.reported_at_mark listed
    have within : ∀ part : List Token, index < (withBody front part back).length :=
      fun part => Nat.lt_of_le_of_lt begun (own.inside part)
    rw [sweepAt_step (within body), sweepAt_step (within other)]
    rcases Nat.eq_or_lt_of_le begun with rfl | earlier
    · obtain ⟨-, ended⟩ := recognizeMethod_mark (within body) atMark
      have bound := own.bounds.2
      rw [own.ends] at ended
      rw [own.recognize balanced, atMark]
      simp only [List.map_cons]
      rw [show index + (front.length + 1 + other.length - index + 1) =
          front.length + 1 + other.length + 1 + 0 by omega,
        show index + (last + 1) = front.length + 1 + body.length + 1 + 0 by omega, sweepAt_behind]
    · rw [own.recognize_before earlier listed]
      cases decided : recognizeMethod (Site.at (withBody front body back) index) with
      | pass further =>
        rw [sweepAt_step (within body), decided] at listed
        have := (own.reported_at_mark listed).1
        exact ih _ (by omega) listed rfl
      | report report further =>
        obtain ⟨before, found⟩ := own.reported_before earlier listed decided
        obtain ⟨placed, ended⟩ := recognizeMethod_mark (within body) decided
        -- A method that ends in front of the mark does not move.
        have stays : report.moved front.length body.length other.length = report := by
          have bound := own.bounds
          apply Span.moved_of_le (recognizeMethod_first_le (within body) decided) (by omega)
          intro place marked
          have := Option.some.inj (placed.symm.trans marked)
          omega
        have := (own.reported_at_mark found).1
        simp only [List.map_cons, stays, ih _ (by omega) found rfl]
      | halt => rfl

/-- With a balanced body in place of its own, the same methods are found at their new places. -/
theorem methodSpans_moved (own : HasBody front body back span mark)
    (balanced : Balanced .curly other) :
    methodSpans (withBody front other back) =
      (methodSpans (withBody front body back)).map
        (Span.moved front.length body.length other.length) := by
  -- The sweep starts before the method, and both bodies are passed as one span.
  have listed := own.listed
  rw [methodSpans, sweep_eq_sweepAt] at listed
  rw [methodSpans, methodSpans, sweep_eq_sweepAt, sweep_eq_sweepAt]
  exact own.sweepAt_moved balanced listed

end HasBody

end PhpOutline
