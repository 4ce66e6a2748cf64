import PhpOutline.Heritage
import PhpOutline.Proofs.Trivia.Records

/-!
Namespaces and parents look at the token right next to them, and only at whether it is trivia.

A list is squeezed by putting one blank for every run of trivia.
The first namespace and the first parent are the same in the squeezed list.
-/

namespace PhpOutline

/-- The trivia that stands for a whole run. -/
def blank : Token :=
  -- Which text it has plays no part.
  .typed .whitespace " " 0

/-- A list with every run of trivia replaced by one blank, and without lines. -/
def squeezed : List Token → List Token
  -- Only the last token of a run puts the blank.
  | [] => []
  | token :: rest =>
    if token.isTrivia then
      if rest.head?.any Token.isTrivia then squeezed rest else blank :: squeezed rest
    else token.unlined :: squeezed rest

/-- A significant token stays in front. -/
theorem squeezed_cons_of_significant {token : Token} (significant : token.isTrivia = false)
    (rest : List Token) : squeezed (token :: rest) = token.unlined :: squeezed rest := by
  simp [squeezed, significant]

/-- Trivia in front puts one blank there, or lengthens the run that follows. -/
theorem squeezed_cons_of_trivia {token : Token} (trivia : token.isTrivia = true)
    (rest : List Token) :
    squeezed (token :: rest) = blank :: squeezed rest ∨
      rest.head?.any Token.isTrivia = true ∧ squeezed (token :: rest) = squeezed rest := by
  -- Of a run of trivia only the last token leaves a blank.
  cases run : rest.head?.any Token.isTrivia with
  | true => exact .inr ⟨rfl, by simp [squeezed, trivia, run]⟩
  | false => exact .inl (by simp [squeezed, trivia, run])

/-- Squeezing keeps the bare tokens. -/
@[simp] theorem bare_squeezed (tokens : List Token) : bare (squeezed tokens) = bare tokens := by
  induction tokens with
  | nil => rfl
  | cons token rest ih =>
    cases trivia : token.isTrivia with
    | true =>
      -- A blank is trivia, so it leaves no bare token either.
      rw [bare_cons_of_trivia trivia]
      rcases squeezed_cons_of_trivia trivia rest with blanked | ⟨-, same⟩
      · rw [blanked, bare_cons_of_trivia rfl, ih]
      · rw [same, ih]
    | false =>
      rw [squeezed_cons_of_significant trivia, bare_cons_of_significant trivia,
        bare_cons_of_significant (by simpa using trivia), ih, Token.unlined_unlined]

/-- A test that all trivia passes is passed by the first token of both lists or of none. -/
theorem head?_squeezed {test : Token → Bool}
    (passes : ∀ token : Token, token.isTrivia = true → test token = true)
    (unlined : ∀ token : Token, test token.unlined = test token) (tokens : List Token) :
    (squeezed tokens).head?.any test = tokens.head?.any test := by
  induction tokens with
  | nil => rfl
  | cons token rest ih =>
    cases trivia : token.isTrivia with
    | true =>
      -- Trivia passes the test, and so does the blank that may take its place.
      rw [List.head?_cons, Option.any_some, passes token trivia]
      rcases squeezed_cons_of_trivia trivia rest with blanked | ⟨run, same⟩
      · rw [blanked, List.head?_cons, Option.any_some, passes blank rfl]
      · -- The run goes on, so the next token is trivia as well.
        simp only [Option.any_eq_true] at run
        obtain ⟨next, first, also⟩ := run
        rw [same, ih, first, Option.any_some, passes next also]
    | false => rw [squeezed_cons_of_significant trivia, List.head?_cons, List.head?_cons,
        Option.any_some, Option.any_some, unlined]

/-- A namespace declaration ends on the same token. -/
theorem namespaceEnd_bare (after : List Token) :
    namespaceEnd (bare after) = (namespaceEnd after).map (bareIndex after) := by
  induction after with
  | nil => rfl
  | cons token rest ih =>
    cases trivia : token.isTrivia with
    -- Trivia neither ends the name nor is part of it.
    | true =>
      have neither := fun char => (Structural.symbol char).trivia token trivia
      rw [bare_cons_of_trivia trivia, ih]
      simp [namespaceEnd, neither, trivia, Function.comp_def, bareIndex_cons_of_trivia trivia]
    | false =>
      rw [bare_cons_of_significant trivia]
      simp only [namespaceEnd, Token.isSymbol_unlined, Token.isTrivia_unlined,
        Token.isNamePart_unlined, ih]
      -- Any other token ends the name, belongs to it or breaks it off, whatever its line.
      split
      · simp
      · split
        · simp [Function.comp_def, bareIndex_cons_of_significant trivia]
        · rfl

/-- The inside of a namespace declaration has the same bare tokens in the squeezed list. -/
theorem namespaceEnd_squeezed (after : List Token) :
    (namespaceEnd (squeezed after)).map (fun stop => bare ((squeezed after).take stop)) =
      (namespaceEnd after).map fun stop => bare (after.take stop) := by
  -- Both ends have the same place among the bare tokens.
  have places := namespaceEnd_bare (squeezed after)
  rw [bare_squeezed, namespaceEnd_bare] at places
  have cut : ∀ list : List Token, (fun stop => bare (list.take stop)) =
      (fun place => (bare list).take place) ∘ bareIndex list := by
    intro list
    funext stop
    rw [Function.comp_apply, bare_take]
  rw [cut, cut, ← Option.map_map, ← Option.map_map, ← places, bare_squeezed]

/-- The tokens inside the first namespace declaration. -/
def firstNamespace? : List Token → Option (List Token)
  -- What is no declaration is passed over token by token.
  | [] => none
  | token :: after =>
    if token.isWord .namespaceWord
        && after.head?.any (fun next => next.isTrivia || next.isSymbol '{') then
      match namespaceEnd after with
      | some stop => some (after.take stop)
      | none => firstNamespace? after
    else firstNamespace? after

/-- The first report of a sweep that lets the first token pass comes from the rest. -/
theorem sweepFrom_pass {recognize : Site → Verdict} {behind rest : List Token} {token : Token}
    (passed : recognize ⟨behind, token :: rest⟩ = .pass 0) :
    sweepFrom recognize behind (token :: rest) = sweepFrom recognize (token :: behind) rest := by
  rw [sweepFrom, passed]
  simp

/-- The tokens of a span that lies ahead of a site. -/
theorem Span.tokens_ahead (behind ahead : List Token) (start stop : Nat) :
    Span.tokens { first := behind.length + start, last := behind.length + stop }
        (behind.reverse ++ ahead) = (ahead.take (stop + 1)).drop start := by
  rw [Span.tokens, Nat.add_assoc, ← List.length_reverse, List.take_length_add_append,
    List.drop_length_add_append]

/-- A sweep for namespaces first reports the first namespace. -/
theorem head?_sweepFrom_recognizeNamespace (behind ahead : List Token) :
    (sweepFrom recognizeNamespace behind ahead).head?.map
        (fun span => (span.tokens (behind.reverse ++ ahead)).tail.dropLast) =
      firstNamespace? ahead := by
  -- The induction is on what is ahead, with the sites that were passed behind.
  induction ahead generalizing behind with
  | nil => simp [sweepFrom, firstNamespace?]
  | cons token after ih =>
    have onward := ih (token :: behind)
    rw [List.reverse_cons, List.append_assoc, List.singleton_append] at onward
    rw [firstNamespace?]
    split
    · rename_i seen
      cases ended : namespaceEnd after with
      | none =>
        rw [sweepFrom_pass (by simp only [recognizeNamespace, if_pos seen, ended])]
        exact onward
      | some stop =>
        -- Here the sweep reports its first span, and what lies inside it is cut from what is ahead.
        have reported : recognizeNamespace ⟨behind, token :: after⟩ = .report
            { first := behind.length + 0, last := behind.length + (1 + stop) } (1 + stop) := by
          simp only [recognizeNamespace, if_pos seen, ended, Nat.add_assoc]
          rfl
        have inside : stop < after.length := by
          rcases namespaceEnd_spec ended with present | present <;>
            exact (List.getElem?_eq_some_iff.mp present).1
        rw [sweepFrom, reported]
        rw [List.head?_cons, Option.map_some, Span.tokens_ahead, Nat.add_comm 1 stop,
          List.take_succ_cons, List.drop_zero, List.tail_cons, List.dropLast_eq_take,
          List.length_take, List.take_take]
        congr 2
        omega
    · rename_i unseen
      rw [sweepFrom_pass (by simp only [recognizeNamespace, if_neg unseen])]
      exact onward

/-- The name of the first namespace is read from its inside. -/
theorem namespaceName?_eq_firstNamespace? (tokens : List Token) :
    namespaceName? tokens = (firstNamespace? tokens).bind fun inner =>
      if (textOf (bare inner)).isEmpty then none else some (textOf (bare inner)) := by
  -- The name is read from the inside of the first span alone.
  have first := head?_sweepFrom_recognizeNamespace [] tokens
  rw [List.reverse_nil, List.nil_append] at first
  rw [← first, namespaceName?, namespaceSpans, sweep]
  cases sweepFrom recognizeNamespace [] tokens with
  | nil => rfl
  | cons span spans => simp [textOf_bare]

/-- The inside of the first namespace has the same bare tokens in the squeezed list. -/
theorem firstNamespace?_squeezed (tokens : List Token) :
    (firstNamespace? (squeezed tokens)).map bare = (firstNamespace? tokens).map bare := by
  induction tokens with
  | nil => rfl
  | cons token rest ih =>
    cases trivia : token.isTrivia with
    | true =>
      -- The keyword is no trivia, so trivia in front of it is passed over.
      have passed : firstNamespace? (token :: rest) = firstNamespace? rest := by
        simp [firstNamespace?, (Structural.word .namespaceWord).trivia token trivia]
      rw [passed, ← ih]
      rcases squeezed_cons_of_trivia trivia rest with blanked | ⟨-, same⟩
      · rw [blanked, firstNamespace?]
        rfl
      · rw [same]
    | false =>
      -- What has to follow the keyword is a blank or a brace, and squeezing leaves a blank where
      -- one was.
      have next : (squeezed rest).head?.any (fun next => next.isTrivia || next.isSymbol '{') =
          rest.head?.any fun next => next.isTrivia || next.isSymbol '{' :=
        head?_squeezed (fun token trivia => by simp [trivia]) (fun token => by simp) rest
      have ends := namespaceEnd_squeezed rest
      rw [squeezed_cons_of_significant trivia, firstNamespace?, firstNamespace?, next,
        Token.isWord_unlined]
      split
      · cases own : namespaceEnd rest <;> cases other : namespaceEnd (squeezed rest) <;>
          simp_all
      · exact ih

/-- The name of the first namespace is the same in the squeezed list. -/
theorem namespaceName?_squeezed (tokens : List Token) :
    namespaceName? (squeezed tokens) = namespaceName? tokens := by
  -- The bare insides are the same, and only those are read.
  have same := firstNamespace?_squeezed tokens
  rw [namespaceName?_eq_firstNamespace?, namespaceName?_eq_firstNamespace?]
  cases own : firstNamespace? tokens <;> cases other : firstNamespace? (squeezed tokens) <;>
    simp_all

/-- The qualified name that comes first, trivia aside. -/
def leadingName (after : List Token) : List Token :=
  -- The name runs on without trivia inside it.
  (after.dropWhile Token.isTrivia).takeWhile Token.isPlainNamePart

/-- The offsets of a qualified name are those of the name that comes first. -/
theorem qualifiedNameOffsets_eq (after : List Token) :
    (leadingName after = [] ∧ qualifiedNameOffsets after = none) ∨
      ∃ start stop, leadingName after ≠ [] ∧ qualifiedNameOffsets after = some (start, stop) ∧
        (after.take (stop + 1)).drop start = leadingName after := by
  simp only [qualifiedNameOffsets, Option.bind_eq_bind]
  cases located : significantFrom after 0 with
  | none =>
    -- Without a significant token there is no name either.
    have trivial : ∀ token ∈ after, token.isTrivia = true := by
      simpa [significantFrom, List.findIdx?_eq_none_iff] using located
    exact .inl ⟨by simp [leadingName, List.dropWhile_eq_nil_iff.mpr trivial], rfl⟩
  | some start =>
    have onward : after.dropWhile Token.isTrivia = after.drop start := by
      have first : after.findIdx? (fun token => !token.isTrivia) = some start := by
        simpa [significantFrom] using located
      rw [List.dropWhile_eq_drop_findIdx_not, (List.findIdx?_eq_some_iff_findIdx_eq.mp first).2]
    rw [leadingName, onward]
    generalize run : (after.drop start).takeWhile Token.isPlainNamePart = name
    have cut : (after.drop start).take name.length = name := by
      rw [← run]
      exact (List.prefix_iff_eq_take.mp (List.takeWhile_prefix _)).symm
    cases name with
    | nil =>
      refine .inl ⟨rfl, ?_⟩
      simp only [Option.bind_some, run, List.length_nil, Nat.lt_irrefl, if_false]
    | cons first others =>
      refine .inr ⟨start, start + others.length, by simp, ?_, ?_⟩
      · simp only [Option.bind_some, run, List.length_cons, Nat.zero_lt_succ, if_true]
        rfl
      rw [List.drop_take, ← cut]
      congr 1
      simp only [List.length_cons]
      omega

/-- Whether a parent may be named after a token. -/
def Token.precedesParent (token : Token) : Bool :=
  -- The name of a class, or the keyword of an anonymous one.
  token.isKind .identifier || token.isWord .classWord

/-- The name of the first parent class, behind the nearest significant token. -/
def firstParent? (before? : Option Token) : List Token → Option (List Token)
  -- What names no parent is passed over token by token.
  | [] => none
  | token :: after =>
    if token.isWord .extendsWord && before?.any Token.precedesParent
        && !(leadingName after).isEmpty then
      some (leadingName after)
    else firstParent? (if token.isTrivia then before? else some token) after

/-- The nearest significant token is the one right behind, unless that is trivia. -/
theorem significantBehind_cons (token : Token) (behind : List Token) :
    significantBehind (token :: behind) =
      if token.isTrivia then significantBehind behind else some token := by
  cases trivia : token.isTrivia <;> simp [significantBehind, trivia]

/-- A sweep for parents first reports the first parent. -/
theorem head?_sweepFrom_recognizeParent (behind ahead : List Token) :
    (sweepFrom recognizeParent behind ahead).head?.map
        (fun span => span.tokens (behind.reverse ++ ahead)) =
      firstParent? (significantBehind behind) ahead := by
  -- The induction is on what is ahead, and of what is behind only the last significant token
  -- counts.
  induction ahead generalizing behind with
  | nil => simp [sweepFrom, firstParent?]
  | cons token after ih =>
    have onward := ih (token :: behind)
    rw [List.reverse_cons, List.append_assoc, List.singleton_append, significantBehind_cons]
      at onward
    rw [firstParent?]
    cases seen : token.isWord .extendsWord && (significantBehind behind).any Token.precedesParent
      with
    | false =>
      have passed : recognizeParent ⟨behind, token :: after⟩ = .pass 0 := by
        simp only [recognizeParent]
        exact if_neg (ne_true_of_eq_false seen)
      rw [sweepFrom_pass passed, onward]
      rfl
    | true =>
      rcases qualifiedNameOffsets_eq after with
        ⟨unnamed, nowhere⟩ | ⟨start, stop, nonempty, found, named⟩
      · have passed : recognizeParent ⟨behind, token :: after⟩ = .pass 0 := by
          simp only [recognizeParent, nowhere]
          exact if_pos seen
        rw [sweepFrom_pass passed, onward, unnamed]
        rfl
      · -- Here the sweep reports its first span, which is the name that leads what is ahead.
        have reported : recognizeParent ⟨behind, token :: after⟩ = .report
            { first := behind.length + (1 + start), last := behind.length + (1 + stop) }
            (1 + stop) := by
          simp only [recognizeParent, found, Site.index, Nat.add_assoc]
          exact if_pos seen
        rw [sweepFrom, reported]
        simp only [List.head?_cons, Option.map_some, Span.tokens_ahead]
        rw [Nat.add_comm 1 stop, Nat.add_comm 1 start, List.take_succ_cons, List.drop_succ_cons,
          named]
        simp [nonempty]

/-- A run of parts of a name is the same in the squeezed list. -/
theorem takeWhile_squeezed (tokens : List Token) :
    (squeezed tokens).takeWhile Token.isPlainNamePart =
      (tokens.takeWhile Token.isPlainNamePart).map Token.unlined := by
  have plain : Structural Token.isPlainNamePart := .or (.kind ⟨by simp, rfl⟩) (.kind ⟨by simp, rfl⟩)
  induction tokens with
  | nil => rfl
  | cons token rest ih =>
    cases trivia : token.isTrivia with
    | true =>
      -- Trivia comes first in the squeezed list too, and no name goes on over it.
      have first : (squeezed (token :: rest)).head?.any Token.isTrivia = true := by
        rw [head?_squeezed (fun _ trivia => trivia) Token.isTrivia_unlined]
        simpa using trivia
      rw [List.takeWhile_cons_of_neg (by simp [plain.trivia token trivia]), List.map_nil]
      cases front : squeezed (token :: rest) with
      | nil => rfl
      | cons next others =>
        rw [front, List.head?_cons, Option.any_some] at first
        rw [List.takeWhile_cons_of_neg (by simp [plain.trivia next first])]
    | false =>
      rw [squeezed_cons_of_significant trivia, List.takeWhile_cons, List.takeWhile_cons,
        plain.unlined, ih]
      cases token.isPlainNamePart <;> rfl

/-- The name that comes first is the same in the squeezed list. -/
theorem leadingName_squeezed (after : List Token) :
    leadingName (squeezed after) = (leadingName after).map Token.unlined := by
  induction after with
  | nil => rfl
  | cons token rest ih =>
    cases trivia : token.isTrivia with
    | true =>
      -- Trivia in front of the name is dropped, and so is the blank in its place.
      have passed : leadingName (token :: rest) = leadingName rest := by
        rw [leadingName, List.dropWhile_cons_of_pos trivia, leadingName]
      rw [passed, ← ih]
      rcases squeezed_cons_of_trivia trivia rest with blanked | ⟨-, same⟩
      · rw [blanked, leadingName, List.dropWhile_cons_of_pos rfl, leadingName]
      · rw [same]
    | false =>
      -- The name has no trivia inside, so squeezing leaves it whole.
      rw [squeezed_cons_of_significant trivia, leadingName, leadingName,
        List.dropWhile_cons_of_neg (by simp [trivia]),
        List.dropWhile_cons_of_neg (by simp [trivia]),
        ← squeezed_cons_of_significant trivia, takeWhile_squeezed]

/-- The first parent is the same in the squeezed list. -/
theorem firstParent?_squeezed (before? : Option Token) (tokens : List Token) :
    firstParent? (before?.map Token.unlined) (squeezed tokens) =
      (firstParent? before? tokens).map (List.map Token.unlined) := by
  induction tokens generalizing before? with
  | nil => rfl
  | cons token rest ih =>
    cases trivia : token.isTrivia with
    | true =>
      -- The keyword is no trivia, and trivia is no significant token before it.
      have passed : firstParent? before? (token :: rest) = firstParent? before? rest := by
        simp [firstParent?, (Structural.word .extendsWord).trivia token trivia, trivia]
      rw [passed, ← ih]
      rcases squeezed_cons_of_trivia trivia rest with blanked | ⟨-, same⟩
      · rw [blanked, firstParent?]
        rfl
      · rw [same]
    | false =>
      -- At the keyword itself both lists have the same token behind and the same name ahead.
      have before : (before?.map Token.unlined).any Token.precedesParent =
          before?.any Token.precedesParent := by
        cases before? <;> simp [Token.precedesParent]
      have onward := ih (some token)
      rw [squeezed_cons_of_significant trivia, firstParent?, firstParent?, Token.isWord_unlined,
        before, leadingName_squeezed, List.isEmpty_map, Token.isTrivia_unlined, trivia]
      split
      · rfl
      · exact onward

/-- Texts do not depend on lines. -/
theorem textOf_map_unlined (tokens : List Token) :
    textOf (tokens.map Token.unlined) = textOf tokens := by
  simp [textOf, Function.comp_def]

/-- The text of the first parent is the same in the squeezed list. -/
theorem map_textOf_firstParent?_squeezed (tokens : List Token) :
    (firstParent? none (squeezed tokens)).map textOf = (firstParent? none tokens).map textOf := by
  -- Lines play no part in a text.
  have found := firstParent?_squeezed none tokens
  rw [Option.map_none] at found
  rw [found, Option.map_map]
  simp only [Function.comp_def, textOf_map_unlined]

/-- The name of the first parent is the text of its tokens. -/
theorem parentName?_eq_firstParent? (qualified : Bool) (tokens : List Token) :
    parentName? qualified tokens = (firstParent? none tokens).map fun name =>
      if qualified then (NameScope.of tokens).qualify (textOf name) else textOf name := by
  -- The sweep starts with nothing behind, and only its first span is read.
  have first := head?_sweepFrom_recognizeParent [] tokens
  rw [List.reverse_nil, List.nil_append] at first
  have nothing : significantBehind [] = none := rfl
  rw [← nothing, ← first, parentName?, parentSpans, sweep]
  cases sweepFrom recognizeParent [] tokens with
  | nil => rfl
  | cons span spans => simp [Span.text]

end PhpOutline
