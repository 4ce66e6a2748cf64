import PhpOutline.Proofs.Body.Spans
import PhpOutline.Proofs.MethodRecord

/-!
What a method body can change in the records of the methods.

A record is read from the tokens of its method alone, so that a body can only change its own.
There the parameters are read first, unless a brace in front of them was taken for the body.
-/

namespace PhpOutline

/-- The tokens behind the name of a function, among those behind its keyword. -/
def behindName (after : List Token) : List Token :=
  -- Up to the name stand trivia and ampersands.
  (after.dropWhile Token.precedesName).tail

/-- Whether some tokens hold the parameters of a method, and hold them whole. -/
def readsParameters (tokens : List Token) : Bool :=
  -- A brace in front of the parameters is read as the body, with all that it encloses.
  match readParts {} 0 tokens with
  | .ok parts => parts.parameters?.isSome
  | .error _ => false

/--
Two records of one method before and after another method got a new body.

The method with the new body starts at a given index.
-/
structure Method.SameOutside (move : Nat → Nat) (own : Nat) (before after : Method) : Prop where
  /-- Only the index of the first token, the body and the last line may differ. -/
  header : after = { before with
    firstIndex := move before.firstIndex, content := after.content, lastLine := after.lastLine }
  /-- The body and the last line differ in no other method. -/
  body : before.firstIndex ≠ own →
    after.content = before.content ∧ after.lastLine = before.lastLine

/-- Parameters that are read in front of a body are read with any balanced body behind them. -/
theorem readParts_withBody {between other : List Token} {index : Nat} {parts : MethodParts}
    {text : String} (read : readParts {} index between = .ok parts)
    (known : parts.parameters? = some text) (balanced : Balanced .curly other) :
    ∃ found, readParts {} index (withBody between other []) = .ok found ∧
      found.parameters? = some text := by
  rw [withBody, readParts_append read]
  cases body : parts.body? with
  | none =>
    -- The braces are read as the body, and nothing is left.
    have opened : parts.opens? (.symbol '{') = some .curly := by
      simp [MethodParts.opens?, known, body, Token.isSymbol]
    have closed : closerOffset? .curly (.symbol '{' :: (other ++ [.symbol '}'])) =
        some (other.length + 1) := closerOffset?_balanced balanced []
    rw [readParts, opened]
    simp only [closed]
    rw [List.drop_eq_nil_of_le (by simp), readParts]
    exact ⟨_, rfl, known⟩
  | some content =>
    refine ⟨parts, readParts_plain fun token _ => ?_, known⟩
    simp [MethodParts.opens?, known, body]

section

variable {skipped rest after back : List Token} {named : Token}

/-- Behind trivia, ampersands and a name stands what follows the name. -/
theorem behindName_eq (skips : ∀ token ∈ skipped, token.precedesName = true)
    (names : named.namesFunction = true) : behindName (skipped ++ named :: rest) = rest := by
  rw [behindName, List.dropWhile_append_of_pos skips, List.dropWhile_cons_of_neg, List.tail_cons]
  simp [Token.precedesName_of_namesFunction names]

/-- Up to the name of a function, and with it, stands no parenthesis. -/
theorem not_mem_upToName (skips : ∀ token ∈ skipped, token.precedesName = true)
    (names : named.namesFunction = true) : .symbol '(' ∉ skipped ++ [named] := by
  -- A parenthesis is no trivia and no ampersand, and it names nothing.
  intro listed
  rcases List.mem_append.mp listed with inside | last
  · have precedes := skips _ inside
    simp [Token.precedesName, Token.isTrivia, Token.isSymbol] at precedes
  · obtain rfl := List.mem_singleton.mp last
    simp [Token.namesFunction] at names

/-- Tokens with a parenthesis hold the name in front of it whole, wherever they are cut off. -/
theorem exists_between (cut : skipped ++ named :: rest = after ++ back)
    (skips : ∀ token ∈ skipped, token.precedesName = true) (names : named.namesFunction = true)
    (parenthesis : .symbol '(' ∈ after) :
    ∃ between, after = skipped ++ named :: between ∧ .symbol '(' ∈ between := by
  -- Everything up to the name comes before the parenthesis, so the cut lies behind the name.
  obtain ⟨apart, other⟩ : .symbol '(' ∉ skipped ∧ .symbol '(' ≠ named := by
    simpa using not_mem_upToName skips names
  rcases List.append_eq_append_iff.mp cut with ⟨more, rfl, tail⟩ | ⟨more, rfl, -⟩
  · cases more with
    | nil => simp [apart] at parenthesis
    | cons first between =>
      obtain ⟨rfl, -⟩ := List.cons.inj tail
      refine ⟨between, rfl, ?_⟩
      simpa [apart, other] using parenthesis
  · simp_all

end

namespace HasBody

variable {front body other back : List Token} {span : Span} {mark : Nat}

/-- The tokens of the method are the end of the front, and the body between its braces. -/
theorem tokens_eq (own : HasBody front body back span mark) :
    span.tokens (withBody front body back) = withBody (front.drop span.first) body [] := by
  obtain ⟨begun, inside⟩ := own.bounds
  exact Span.tokens_withBody (by omega) own.ends

/-- With another body in place of its own, the method has the tokens of its head and that body. -/
theorem tokens_moved (own : HasBody front body back span mark) (other : List Token) :
    (span.moved front.length body.length other.length).tokens (withBody front other back) =
      withBody (front.drop span.first) other [] := by
  -- The span starts in the front and ends at the closing brace.
  obtain ⟨begun, inside⟩ := own.bounds
  rw [own.moved_eq]
  exact Span.tokens_withBody (Nat.le_trans begun (Nat.le_of_lt inside)) rfl

/-- The head of the method, up to its body, stands in the front and has the shape of a method. -/
theorem shape (own : HasBody front body back span mark) :
    ∃ lead keyword skipped named between,
      front.drop span.first = lead ++ keyword :: front.drop (mark + 1) ∧
      front.drop (mark + 1) = skipped ++ named :: between ∧
      (∀ token ∈ lead, token.leads Token.isMethodModifier = true) ∧
      keyword.isWord .functionWord = true ∧
      (∀ token ∈ skipped, token.precedesName = true) ∧ named.namesFunction = true ∧
      .symbol '(' ∈ between := by
  obtain ⟨parameters, close, later, further, bounded, parenthesis, -⟩ := own.parameters
  obtain ⟨lead, keyword, skipped, named, rest, shape, placed, leading, keyed, skips, names⟩ :=
    methodSpans_shape own.listed
  obtain rfl : mark = span.first + lead.length := Option.some.inj (own.marked.symm.trans placed)
  rw [own.tokens_eq] at shape
  -- Behind the keyword stands the rest of the front, and then the body.
  have cut : skipped ++ named :: rest =
      withBody (front.drop (span.first + lead.length + 1)) body [] := by
    have dropped := congrArg (List.drop (lead.length + 1)) shape
    have passed : lead.drop (lead.length + 1) = [] := List.drop_eq_nil_of_le (Nat.le_succ _)
    rw [drop_withBody (by rw [List.length_drop]; omega), List.drop_drop] at dropped
    simpa [List.drop_append, passed, Nat.add_assoc] using dropped.symm
  obtain ⟨between, split, listed⟩ := exists_between cut skips names <| by
    apply List.mem_of_getElem? (i := parameters - (span.first + lead.length + 1))
    rwa [List.getElem?_drop, Nat.add_sub_cancel' later]
  refine ⟨lead, keyword, skipped, named, between, ?_, split, leading, keyed, skips, names, listed⟩
  rw [cut] at shape
  apply List.append_cancel_right
  simpa [withBody] using shape

/-- The method is described from its parts, which are read behind its name. -/
theorem ofDeclaration_eq (own : HasBody front body back span mark) :
    ∃ index lead named line, ∀ part : List Token,
      Method.ofDeclaration span.first (withBody (front.drop span.first) part []) =
        (readParts {} index (withBody (behindName (front.drop (mark + 1))) part [])).map
          (Method.ofParts span.first lead named line) := by
  -- Everything up to the name stands in the front, so it is the same whatever the body.
  obtain ⟨lead, keyword, skipped, named, between, head, split, leading, keyed, skips, names, -⟩ :=
    own.shape
  obtain ⟨line, started⟩ := exists_startLine? lead keyed
  refine ⟨lead.length + 1 + skipped.length + 1, lead, named, line, fun part => ?_⟩
  rw [split, behindName_eq skips names,
    ← Method.ofDeclaration_eq_map _ leading keyed skips names started, head, split]
  simp [withBody]

/-- The method is described with any balanced body, if its parameters are read in front of it. -/
theorem describe (own : HasBody front body back span mark) (balanced : Balanced .curly other)
    (leads : readsParameters (behindName (front.drop (mark + 1))) = true) {method : Method}
    (described : Method.ofDeclaration span.first (span.tokens (withBody front body back)) =
      .ok method) :
    ∃ record, Method.ofDeclaration span.first
        ((span.moved front.length body.length other.length).tokens (withBody front other back)) =
          .ok record ∧
      record = { method with content := record.content, lastLine := record.lastLine } := by
  obtain ⟨index, lead, named, line, read⟩ := own.ofDeclaration_eq
  rw [own.tokens_eq, read] at described
  rw [own.tokens_moved, read]
  generalize behindName (front.drop (mark + 1)) = between at *
  unfold readsParameters at leads
  split at leads
  · rename_i parts found
    obtain ⟨text, known⟩ := Option.isSome_iff_exists.mp leads
    have again := readParts_eq_ok_of_index found index
    obtain ⟨reread, taken, parameters⟩ := readParts_withBody again known balanced
    rw [taken]
    refine ⟨_, rfl, ?_⟩
    -- Both records are made of the same head and the same parameters.
    rw [withBody, readParts_append again] at described
    cases rest : readParts parts (index + between.length)
        (.symbol '{' :: (body ++ .symbol '}' :: [])) with
    | error fault =>
      rw [rest] at described
      cases described
    | ok first =>
      rw [rest] at described
      obtain rfl := Except.ok.inj described
      have kept := (readParts_kept rest).1 text known
      simp [Method.ofParts, parameters, kept]
  · cases leads

/-- A method in front of this one keeps its tokens and its place. -/
theorem tokens_before (own : HasBody front body back span mark) {earlier : Span}
    (ordered : earlier.first ≤ earlier.last) (before : earlier.last < span.first)
    (inner : ∀ place, earlier.mark? = some place → place ≤ earlier.last) :
    earlier.moved front.length body.length other.length = earlier ∧
      earlier.tokens (withBody front other back) = earlier.tokens (withBody front body back) := by
  -- An earlier span ends in front of the body.
  obtain ⟨begun, inside⟩ := own.bounds
  refine ⟨Span.moved_of_le ordered (by omega) fun place marked => ?_, ?_⟩
  · have := inner place marked
    omega
  · rw [Span.tokens, Span.tokens, take_withBody (by omega), take_withBody (by omega)]

/-- A method behind this one keeps its tokens, and its place among them moves. -/
theorem tokens_behind (own : HasBody front body back span mark) {later : Span}
    (behind : span.last < later.first) (ordered : later.first ≤ later.last) :
    (later.moved front.length body.length other.length).first =
        later.first - body.length + other.length ∧
      (later.moved front.length body.length other.length).tokens (withBody front other back) =
        later.tokens (withBody front body back) := by
  have ends := own.ends
  -- Both ends of the span are counted from behind the closing brace.
  obtain ⟨first, start⟩ : ∃ first, later.first = front.length + 1 + body.length + 1 + first :=
    ⟨later.first - (front.length + 1 + body.length + 1), by omega⟩
  obtain ⟨last, stop⟩ : ∃ last, later.last + 1 = front.length + 1 + body.length + 1 + last :=
    ⟨later.last - (front.length + 1 + body.length), by omega⟩
  have moves : ∀ index, front.length < index →
      movedIndex front.length body.length other.length index = index - body.length + other.length :=
    fun index beyond => movedIndex_of_lt beyond
  refine ⟨moves _ (by omega), ?_⟩
  simp only [Span.tokens, Span.moved]
  rw [moves later.first (by omega), moves later.last (by omega), stop, start,
    show front.length + 1 + body.length + 1 + first - body.length + other.length =
      front.length + 1 + other.length + 1 + first by omega,
    show later.last - body.length + other.length + 1 =
      front.length + 1 + other.length + 1 + last by omega]
  rw [take_withBody_back, take_withBody_back, drop_withBody_back, drop_withBody_back]

/-- Every method is described again, and only the one with the new body differs in its body. -/
theorem record_moved (own : HasBody front body back span mark) (balanced : Balanced .curly other)
    (leads : readsParameters (behindName (front.drop (mark + 1))) = true) {each : Span}
    (listed : each ∈ methodSpans (withBody front body back)) {method : Method}
    (described : Method.ofDeclaration each.first (each.tokens (withBody front body back)) =
      .ok method) :
    ∃ record, Method.ofDeclaration (each.moved front.length body.length other.length).first
        ((each.moved front.length body.length other.length).tokens (withBody front other back)) =
          .ok record ∧
      method.SameOutside (movedIndex front.length body.length other.length) span.first record := by
  have index := Method.firstIndex_of_ofDeclaration described
  have bounded := ((methodSpans_inOrder _).bounded each listed).1
  obtain ⟨begun, inside⟩ := own.bounds
  have ends := own.ends
  rcases (methodSpans_inOrder _).apart listed own.listed with before | behind | rfl
  · obtain ⟨place, marked, -, within⟩ := methodSpans_mark listed
    obtain ⟨stays, tokens⟩ := own.tokens_before bounded before fun other known => by
      rw [marked, Option.some.injEq] at known
      omega
    rw [stays, tokens]
    refine ⟨method, described, ?_, fun _ => ⟨rfl, rfl⟩⟩
    rw [movedIndex_of_le (by omega)]
  · -- Behind the body the same tokens are read, and only their place is another one.
    obtain ⟨first, tokens⟩ := own.tokens_behind behind bounded
    rw [tokens, first, Method.ofDeclaration_firstIndex _ each.first, described]
    refine ⟨_, rfl, ?_, fun _ => ⟨rfl, rfl⟩⟩
    rw [index, movedIndex_of_lt (by omega)]
  · obtain ⟨record, again, same⟩ := own.describe balanced leads described
    rw [own.moved_eq] at again ⊢
    refine ⟨record, again, ?_, fun apart => absurd index apart⟩
    rw [index, movedIndex_of_le (by omega), ← index]
    exact same

/-- All methods are described with the new body, if the parameters are read in front of it. -/
theorem methods_moved (own : HasBody front body back span mark) (balanced : Balanced .curly other)
    (leads : readsParameters (behindName (front.drop (mark + 1))) = true) {records : List Method}
    (described : methods (withBody front body back) = .ok records) :
    ∃ others, methods (withBody front other back) = .ok others ∧
      List.Forall₂
        (Method.SameOutside (movedIndex front.length body.length other.length) span.first)
        records others := by
  -- The spans are those from before, moved, and each is described as before outside the body.
  rw [methods, own.methodSpans_moved balanced]
  refine exists_mapM_map_eq_ok (fun each listed method read => ?_) described
  simp only [mapError_eq_ok_iff] at read ⊢
  exact own.record_moved balanced leads listed read

end HasBody

/-- A parenthesis that opens alone is no brace. -/
theorem balanced_parenthesis : Balanced .curly [.symbol '('] :=
  ⟨by decide, by decide⟩

/--
Parameters that are not found in front of a body are looked for inside it.

With a single parenthesis for a body, the reading fails unless the parameters were read before.
-/
theorem readsParameters_of_open {between : List Token} {index : Nat} {found : MethodParts}
    (parenthesis : .symbol '(' ∈ between)
    (read : readParts {} index (withBody between [.symbol '('] []) = .ok found) :
    readsParameters between = true := by
  rw [withBody] at read
  cases front : readParts {} index between with
  | error fault =>
    -- Nothing that is open in front of the brace is closed behind it.
    rw [readParts_append_error front] at read
    · cases read
    · rintro delimiter (rfl | rfl) reached <;>
        simp [closerFrom, Token.isSymbol, Delimiter.opener, Delimiter.closer]
  | ok parts =>
    cases known : parts.parameters? with
    | some text => simp [readsParameters, readParts_eq_ok_of_index front 0, known]
    | none =>
      exfalso
      cases body : parts.body? with
      | none => exact not_mem_of_readParts front known body parenthesis
      | some content =>
        rw [readParts_append front, readParts] at read
        have passes : parts.opens? (.symbol '{') = none := by
          simp [MethodParts.opens?, known, body, Token.isSymbol]
        have opened : parts.opens? (.symbol '(') = some .round := by
          simp [MethodParts.opens?, known, Token.isSymbol]
        have unclosed : closerOffset? .round [.symbol '(', .symbol '}'] = none := by decide
        simp only [passes, List.cons_append, List.nil_append] at read
        rw [readParts, opened] at read
        simp only [unclosed] at read
        cases read

/-- Whether a brace leads is decided in front of the first parenthesis. -/
theorem braceLeads_append {tokens : List Token} (parenthesis : .symbol '(' ∈ tokens)
    (orderly : braceLeads tokens = false) (rest : List Token) :
    braceLeads (tokens ++ rest) = false := by
  -- Both the parenthesis and what comes before it lie in the front part.
  have inside : tokens.findIdx (Token.isSymbol '(') < tokens.length :=
    List.findIdx_lt_length_of_exists ⟨_, parenthesis, rfl⟩
  simp only [braceLeads, decide_eq_false_iff_not, Nat.not_lt, List.findIdx_append,
    if_pos inside] at orderly ⊢
  split
  · exact orderly
  · omega

namespace HasBody

variable {front body other back : List Token} {span : Span} {mark : Nat}

/-- If a body of an open parenthesis leaves the methods readable, the parameters were read. -/
theorem readsParameters_of_methods (own : HasBody front body back span mark) {records : List Method}
    (described : methods (withBody front [.symbol '('] back) = .ok records) :
    readsParameters (behindName (front.drop (mark + 1))) = true := by
  -- A body with an open parenthesis is balanced in braces, so its span is reported.
  have listed : span.moved front.length body.length [Token.symbol '('].length ∈
      methodSpans (withBody front [.symbol '('] back) := by
    rw [own.methodSpans_moved balanced_parenthesis]
    exact List.mem_map_of_mem own.listed
  obtain ⟨method, -, read⟩ := exists_record_of_mem_methodSpans described listed
  obtain ⟨index, lead, named, line, parts⟩ := own.ofDeclaration_eq
  obtain ⟨_, _, skipped, _, between, -, split, -, -, skips, names, parenthesis⟩ := own.shape
  have first :
      (span.moved front.length body.length [Token.symbol '('].length).first = span.first := by
    rw [own.moved_eq]
  rw [own.tokens_moved, first, parts] at read
  rw [split, behindName_eq skips names] at read ⊢
  -- Parameters that are still missing would be read from the parenthesis, which is never closed.
  cases found : readParts {} index (withBody between [.symbol '('] []) with
  | error fault =>
    rw [found] at read
    cases read
  | ok parts => exact readsParameters_of_open parenthesis found

/-- Where no brace stands in front of the parameters, they are read in front of the body. -/
theorem readsParameters_of_orderly (own : HasBody front body back span mark)
    (orderly : braceLeads (front.drop (mark + 1)) = false) :
    readsParameters (behindName (front.drop (mark + 1))) = true := by
  obtain ⟨begun, inside⟩ := own.bounds
  obtain ⟨_, _, skipped, named, between, -, split, -, -, skips, names, parenthesis⟩ := own.shape
  -- The declaration ends behind a single parenthesis, if one more token follows.
  have ended := own.declarationEnd_eq balanced_parenthesis [.symbol ';']
  rw [drop_withBody (by omega)] at ended
  have size : front.length = mark + 1 + (front.drop (mark + 1)).length := by
    rw [List.length_drop]
    omega
  generalize front.drop (mark + 1) = after at *
  obtain ⟨parameters, opened, -, -, -⟩ := declarationEnd_spec ended
  have before : skipped.length + 1 ≤ parameters := by
    by_contra short
    rw [findIdx?_eq_findFrom] at opened
    obtain ⟨-, ⟨token, present, opens⟩, -⟩ := findFrom_spec opened
    rw [split, Token.isSymbol_iff.mp opens, withBody,
      show skipped ++ named :: between = (skipped ++ [named]) ++ between by simp, List.append_assoc,
      List.getElem?_append_left (by simp; omega)] at present
    exact not_mem_upToName skips names (List.mem_of_getElem? present)
  obtain ⟨found, read⟩ := readable_declaration ended (by simp [withBody]; omega)
    (braceLeads_append (by simp [split, parenthesis]) orderly _) opened before 0
  have cut : ((withBody after [.symbol '('] [.symbol ';']).take
      (front.length + 1 + [Token.symbol '('].length - (mark + 1) + 1)).drop (skipped.length + 1) =
        withBody between [.symbol '('] [] := by
    rw [show front.length + 1 + [Token.symbol '('].length - (mark + 1) + 1 =
        after.length + 1 + [Token.symbol '('].length + 1 + 0 by omega, take_withBody_back,
      List.take_zero, drop_withBody (by simp [split]), split,
      show skipped ++ named :: between = (skipped ++ [named]) ++ between by simp]
    congr 1
    exact List.drop_left' (by simp)
  rw [cut] at read
  rw [split, behindName_eq skips names]
  exact readsParameters_of_open parenthesis read

end HasBody

/--
A method body decides nothing outside it, but for parameters that are not read in front of it.

Whatever balanced body a method gets, the same methods are found, and those behind it move.
The records stay the same for every such body exactly when the parameters of the method are read in
front of its body, and they are unless a brace stands between its keyword and its parameters.
-/
theorem method_body_isolated {front body back : List Token} {span : Span} {mark : Nat}
    (own : HasBody front body back span mark) :
    (∀ other, Balanced .curly other →
      methodSpans (withBody front other back) =
        (methodSpans (withBody front body back)).map
          (Span.moved front.length body.length other.length)) ∧
    (∀ records, methods (withBody front body back) = .ok records →
      ((∀ other, Balanced .curly other →
          ∃ others, methods (withBody front other back) = .ok others ∧
            List.Forall₂
              (Method.SameOutside (movedIndex front.length body.length other.length) span.first)
              records others) ↔
        readsParameters (behindName (front.drop (mark + 1))) = true)) ∧
    (braceLeads (front.drop (mark + 1)) = false →
      readsParameters (behindName (front.drop (mark + 1))) = true) := by
  refine ⟨fun other balanced => own.methodSpans_moved balanced, fun records described => ?_,
    own.readsParameters_of_orderly⟩
  constructor
  · -- One body decides: that of a single parenthesis can only be read if the parameters are.
    intro isolated
    obtain ⟨others, again, -⟩ := isolated _ balanced_parenthesis
    exact own.readsParameters_of_methods again
  · exact fun leads other balanced => own.methods_moved balanced leads described

/-- A closure that breaks off in the body of a method is seen neither by it nor by the next one. -/
theorem method_body_isolated_closure :
    let front : List Token :=
      [.typed .docComment "/** */" 1, .typed (.word .functionWord) "function" 1,
       .typed .identifier "f" 1, .symbol '(', .typed .variableName "$n" 1, .symbol ')']
    let back : List Token :=
      [.typed (.word .staticWord) "static" 2, .typed (.word .functionWord) "function" 2,
       .typed .identifier "g" 2, .symbol '(', .symbol ')', .symbol ';']
    let other : List Token :=
      [.typed (.word .functionWord) "function" 1, .symbol '(', .symbol '{', .symbol ';',
       .symbol '}']
    HasBody front [] back ⟨0, 7, some 1⟩ 1 ∧ Balanced .curly other ∧
      methodSpans (withBody front other back) = [⟨0, 12, some 1⟩, ⟨13, 18, some 14⟩] ∧
      ∃ records others, methods (withBody front [] back) = .ok records ∧
        methods (withBody front other back) = .ok others ∧
        List.Forall₂ (Method.SameOutside (movedIndex 6 0 5) 0) records others := by
  intro front back other
  -- The empty body and that of a closure are both balanced, and the parameters come first.
  have found : methodSpans (withBody front [] back) = [⟨0, 7, some 1⟩, ⟨8, 13, some 9⟩] := by
    decide +kernel
  have own : HasBody front [] back ⟨0, 7, some 1⟩ 1 :=
    ⟨by rw [found]; simp, rfl, ⟨3, 5, by decide, by decide, by decide⟩, rfl⟩
  have balanced : Balanced .curly other := ⟨by decide, by decide⟩
  have readable : (methods (withBody front [] back)).toOption.isSome = true := by
    decide +kernel
  obtain ⟨moves, isolated, orderly⟩ := method_body_isolated own
  refine ⟨own, balanced, by rw [moves other balanced, found]; decide, ?_⟩
  cases read : methods (withBody front [] back) with
  | error fault => simp [read, Except.toOption] at readable
  | ok records =>
    obtain ⟨others, again, paired⟩ :=
      (isolated records read).mpr (orderly (by decide)) other balanced
    exact ⟨records, others, rfl, again, paired⟩

/--
Where a brace stands in front of the parameters, what the body holds is taken for the parameters.

Both bodies are balanced, and the record differs in more than its body and its last line.
-/
theorem method_body_read_as_parameters :
    let front : List Token :=
      [.typed .openTag "<?php " 1, .typed (.word .functionWord) "function" 1,
       .typed .whitespace " " 1, .typed .identifier "f" 1, .typed .whitespace " " 1, .symbol '{',
       .typed .whitespace " " 1, .typed .identifier "g" 1, .symbol '(', .symbol ')',
       .typed .whitespace " " 1, .symbol '}', .typed .whitespace " " 1]
    let body : List Token := [.typed .whitespace " " 1]
    let other : List Token :=
      [.typed .whitespace " " 1, .typed .identifier "h" 1, .symbol '(', .typed .variableName "$x" 1,
       .symbol ')', .typed .whitespace " " 1]
    HasBody front body [] ⟨1, 15, some 1⟩ 1 ∧ Balanced .curly other ∧
      (methods (withBody front body [])).toOption.map (List.map Method.parameters) = some [""] ∧
      (methods (withBody front other [])).toOption.map (List.map Method.parameters) =
        some ["($x)"] ∧
      ¬ ∃ records others, methods (withBody front body []) = .ok records ∧
        methods (withBody front other []) = .ok others ∧
        List.Forall₂ (Method.SameOutside (movedIndex 13 1 6) 1) records others := by
  intro front body other
  have found : methodSpans (withBody front body []) = [⟨1, 15, some 1⟩] := by
    decide +kernel
  have first : (methods (withBody front body [])).toOption.map (List.map Method.parameters) =
      some [""] := by
    decide +kernel
  have second : (methods (withBody front other [])).toOption.map (List.map Method.parameters) =
      some ["($x)"] := by
    decide +kernel
  refine ⟨⟨by rw [found]; simp, rfl, ⟨8, 9, by decide, by decide, by decide⟩, rfl⟩,
    ⟨by decide, by decide⟩, first, second, ?_⟩
  rintro ⟨records, others, read, again, paired⟩
  rw [read] at first
  rw [again] at second
  -- Records that are the same outside the body have the same parameters.
  have same : records.map Method.parameters = others.map Method.parameters := by
    clear read again first second
    induction paired with
    | nil => rfl
    | cons alike _ ih => rw [List.map_cons, List.map_cons, ih, alike.header]
  simp only [Except.toOption, Option.map_some, Option.some.injEq, same] at first second
  simp [first] at second

end PhpOutline
