import Mathlib.Data.List.Forall2
import PhpOutline.Proofs.Method
import PhpOutline.Proofs.Traversal

/-!
The record of a method, field by field.

A declaration of the shape of a method is described by the tokens in front of its keyword, by its
name, and by the parts that are read behind the name.
-/

namespace PhpOutline

/-- Whether a token declares a visibility. -/
def Token.showsVisibility (token : Token) : Bool :=
  -- Three modifiers do.
  (token.kind?.bind Visibility.ofKind?).isSome

/-- The line that a declaration with the given tokens in front of its keyword starts on. -/
def startLine? (lead : List Token) (keyword : Token) : Option Nat :=
  -- A visibility counts first, and without one any other modifier or the keyword.
  ((lead ++ [keyword]).find? Token.showsVisibility).bind Token.line? <|>
    ((lead ++ [keyword]).find? Token.startsMethod).bind Token.line?

/-- The record of a method with the given tokens in front, name, first line and parts. -/
def Method.ofParts (firstIndex : Nat) (lead : List Token) (named : Token) (firstLine : Nat)
    (parts : MethodParts) : Method :=
  -- Parts that are missing have no text.
  { name := named.text
    visibility :=
      (lead.findSome? fun token => token.kind?.bind Visibility.ofKind?).getD .publicAccess
    isAbstract := lead.any (Token.isWord .abstractWord)
    isFinal := lead.any (Token.isWord .finalWord)
    isStatic := lead.any (Token.isWord .staticWord)
    firstLine
    lastLine := firstLine + lineFeeds (parts.body?.getD "")
    content := parts.body?.getD ""
    parameters := parts.parameters?.getD ""
    comment? := lead.findSome? Comment.ofToken?
    firstIndex }

section

variable {lead skipped rest : List Token} {keyword named : Token}

/-- A declaration has a line to start on. -/
theorem exists_startLine? (lead : List Token) (keyed : keyword.isWord .functionWord = true) :
    ∃ line, startLine? lead keyword = some line :=
  exists_firstLine lead keyed

/-- A declaration of the shape of a method is described as soon as its parts are read. -/
theorem Method.ofDeclaration_eq_map {line : Nat} (firstIndex : Nat)
    (leading : ∀ token ∈ lead, token.leads Token.isMethodModifier = true)
    (keyed : keyword.isWord .functionWord = true)
    (skips : ∀ token ∈ skipped, token.precedesName = true) (names : named.namesFunction = true)
    (started : startLine? lead keyword = some line) :
    Method.ofDeclaration firstIndex (lead ++ keyword :: (skipped ++ named :: rest)) =
      (readParts {} (lead.length + 1 + skipped.length + 1) rest).map
        (Method.ofParts firstIndex lead named line) := by
  -- Keyword, name and line are found, and what is left is to read the parts.
  unfold startLine? Token.showsVisibility Token.startsMethod at started
  simp only [Method.ofDeclaration, takeWhile_lead leading keyed, List.drop_left,
    takeWhile_skipped skips names, names, started]
  cases readParts {} (lead.length + 1 + skipped.length + 1) rest <;> rfl

end

/-- The index of the first token is put into a record as it is given. -/
theorem Method.ofDeclaration_firstIndex (firstIndex other : Nat) (declaration : List Token) :
    Method.ofDeclaration firstIndex declaration =
      (Method.ofDeclaration other declaration).map fun method => { method with firstIndex } := by
  -- On every way through the definition the index only enters the record at the end.
  simp only [Method.ofDeclaration]
  split
  · rfl
  · split
    · rfl
    · split
      · rfl
      · simp only [bind, Except.bind]
        split
        · rfl
        · split <;> rfl

/-- The record of a declaration keeps the index that was given. -/
theorem Method.firstIndex_of_ofDeclaration {firstIndex : Nat} {declaration : List Token}
    {method : Method} (described : Method.ofDeclaration firstIndex declaration = .ok method) :
    method.firstIndex = firstIndex := by
  -- Putting the same index into the record again leaves the record as it is.
  have same := Method.ofDeclaration_firstIndex firstIndex firstIndex declaration
  rw [described] at same
  exact congrArg Method.firstIndex (Except.ok.inj same)

/-- A failure that is renamed stays a failure. -/
theorem mapError_eq_ok_iff {α ε : Type} {change : ε → ε} {result : Except ε α} {value : α} :
    result.mapError change = .ok value ↔ result = .ok value := by
  cases result <;> simp [Except.mapError]

/-- If all methods are described, the span of each is. -/
theorem exists_record_of_mem_methodSpans {tokens : List Token} {records : List Method} {span : Span}
    (described : methods tokens = .ok records) (listed : span ∈ methodSpans tokens) :
    ∃ method ∈ records, Method.ofDeclaration span.first (span.tokens tokens) = .ok method := by
  -- The traversal succeeded, so the record of each span is one of the records.
  have member := List.mem_map_of_mem (f := fun span =>
    (Method.ofDeclaration span.first (span.tokens tokens)).mapError (Fault.shift span.first)) listed
  rw [mapM_eq_ok_iff.mp described] at member
  obtain ⟨method, found, read⟩ := List.mem_map.mp member
  exact ⟨method, found, mapError_eq_ok_iff.mp read.symm⟩

end PhpOutline
