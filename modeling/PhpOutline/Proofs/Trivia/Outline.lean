import Mathlib
import PhpOutline.Proofs.Trivia.Squeezed

/-!
Comments and white space never change which declarations are seen.

Two lists with the same bare tokens, and with trivia in the same gaps between them, have the same
squeezed list, and so the same namespace, classes, parent, imports, properties and methods.
-/

namespace PhpOutline

/-- Whether trivia stands in each gap of a list, when some was seen before it or not. -/
def gapsFrom (seen : Bool) : List Token → List Bool
  -- Each significant token ends one gap, and the end of the list the last one.
  | [] => [seen]
  | token :: rest => if token.isTrivia then gapsFrom true rest else seen :: gapsFrom false rest

/-- Whether trivia stands before the first bare token, between two neighbours and after the last. -/
def gaps (tokens : List Token) : List Bool :=
  -- There is one gap more than there are bare tokens.
  gapsFrom false tokens

/-- Two lists that differ in lines, and in how much and which trivia stands in a gap. -/
structure SameButTrivia (tokens others : List Token) : Prop where
  /-- The other tokens have the same symbols, kinds and texts in the same order. -/
  bare : bare tokens = bare others
  /-- A gap holds trivia in one list exactly when it does in the other. -/
  gaps : gaps tokens = gaps others

/-- Tokens with a blank in the gaps that hold trivia. -/
def interleave : List Bool → List Token → List Token
  -- The last gap stands behind all tokens.
  | gap :: gaps, token :: tokens =>
    if gap then blank :: token :: interleave gaps tokens else token :: interleave gaps tokens
  | gap :: _, [] => if gap then [blank] else []
  | [], tokens => tokens

/-- What was seen before a list puts a blank in front, unless the list starts with trivia. -/
theorem interleave_gapsFrom (seen : Bool) (tokens : List Token) :
    interleave (gapsFrom seen tokens) (bare tokens) =
      if seen && !tokens.head?.any Token.isTrivia then blank :: squeezed tokens
      else squeezed tokens := by
  induction tokens generalizing seen with
  | nil => cases seen <;> rfl
  | cons token rest ih =>
    cases trivia : token.isTrivia with
    | true =>
      -- A gap is open from here on, and it is closed by one blank where the run ends.
      rw [gapsFrom, if_pos trivia, bare_cons_of_trivia trivia, ih true, squeezed, if_pos trivia]
      cases rest.head?.any Token.isTrivia <;> simp [trivia]
    | false =>
      -- A bare token closes the gap before it, so the rest starts without one.
      have unseen := ih false
      rw [Bool.false_and, if_neg Bool.false_ne_true] at unseen
      rw [gapsFrom, if_neg (by simp [trivia]), bare_cons_of_significant trivia, interleave, unseen,
        squeezed_cons_of_significant trivia]
      cases seen <;> simp [trivia]

/-- A squeezed list is made of the bare tokens and the gaps. -/
theorem squeezed_eq_interleave (tokens : List Token) :
    squeezed tokens = interleave (gaps tokens) (bare tokens) := by
  rw [gaps, interleave_gapsFrom]
  simp

/-- Lists that are the same but for trivia are squeezed to the same list. -/
theorem SameButTrivia.squeezed_eq {tokens others : List Token}
    (same : SameButTrivia tokens others) :
    squeezed tokens = squeezed others := by
  rw [squeezed_eq_interleave, squeezed_eq_interleave, same.bare, same.gaps]

section

variable {tokens others : List Token} (same : SameButTrivia tokens others)
include same

/-- The namespace does not depend on trivia. -/
theorem SameButTrivia.namespaceName?_eq : namespaceName? tokens = namespaceName? others := by
  rw [← namespaceName?_squeezed, same.squeezed_eq, namespaceName?_squeezed]

/-- The imports do not depend on trivia. -/
theorem SameButTrivia.imports_eq (sorted : Bool) :
    imports sorted tokens = imports sorted others := by
  rw [← imports_bare, same.bare, imports_bare]

/-- The class names do not depend on trivia. -/
theorem SameButTrivia.classNames_eq (qualified : Bool) (filter : ClassFilter) :
    classNames qualified filter tokens = classNames qualified filter others := by
  -- The names are read from the bare tokens, and the namespace from the squeezed ones.
  have names : (classNameSpans filter tokens).map (fun span => span.text tokens) =
      (classNameSpans filter others).map fun span => span.text others := by
    rw [← map_text_classNameSpans_bare, same.bare, map_text_classNameSpans_bare]
  rw [classNames, classNames, names, same.namespaceName?_eq]

/-- The parent does not depend on trivia. -/
theorem SameButTrivia.parentName?_eq (qualified : Bool) :
    parentName? qualified tokens = parentName? qualified others := by
  have scope : NameScope.of tokens = NameScope.of others := by
    rw [NameScope.of, NameScope.of, same.imports_eq, same.namespaceName?_eq]
  -- The first parent is found in the squeezed tokens, for a name has no trivia inside.
  have first : (firstParent? none tokens).map textOf = (firstParent? none others).map textOf := by
    rw [← map_textOf_firstParent?_squeezed, same.squeezed_eq, map_textOf_firstParent?_squeezed]
  have seen := congrArg
    (Option.map fun name => if qualified then (NameScope.of tokens).qualify name else name) first
  rw [Option.map_map, Option.map_map] at seen
  rw [parentName?_eq_firstParent?, parentName?_eq_firstParent?, ← scope]
  exact seen

/-- The signatures of the properties do not depend on trivia. -/
theorem SameButTrivia.properties_eq :
    ∃ found again, properties tokens = .ok found ∧ properties others = .ok again ∧
      found.map Property.signature = again.map Property.signature := by
  -- Describing properties never fails, so both records are there to be compared.
  have alike : (properties tokens).map (List.map Property.signature) =
      (properties others).map (List.map Property.signature) := by
    rw [← properties_bare, same.bare, properties_bare]
  obtain ⟨found, described, -⟩ := properties_eq_ok tokens
  obtain ⟨again, redescribed, -⟩ := properties_eq_ok others
  rw [described, redescribed] at alike
  exact ⟨found, again, described, redescribed, Except.ok.inj alike⟩

/-- The signatures of the methods do not depend on trivia, nor whether all of them can be read. -/
theorem SameButTrivia.methods_eq :
    (∃ fault cause, methods tokens = .error fault ∧ methods others = .error cause) ∨
      ∃ found again, methods tokens = .ok found ∧ methods others = .ok again ∧
        found.map Method.signature = again.map Method.signature := by
  -- Success and signatures are those of the bare tokens.
  have alike : (methods tokens).toOption.map (List.map Method.signature) =
      (methods others).toOption.map (List.map Method.signature) := by
    rw [← methods_bare, same.bare, methods_bare]
  cases own : methods tokens <;> cases other : methods others <;>
    simp_all [Except.toOption]

end

/--
Comments and white space never change which declarations are seen.

Between two lists with the same significant tokens, and with trivia in the same gaps, the
namespace, the class names, the parent and the imports are equal, and so are the names and
modifiers of properties and methods, unless the methods of both cannot be read.
-/
theorem declarations_ignore_trivia {tokens others : List Token}
    (same : SameButTrivia tokens others) :
    namespaceName? tokens = namespaceName? others ∧
    (∀ qualified filter, classNames qualified filter tokens = classNames qualified filter others) ∧
    (∀ qualified, parentName? qualified tokens = parentName? qualified others) ∧
    (∀ sorted, imports sorted tokens = imports sorted others) ∧
    (∃ found again, properties tokens = .ok found ∧ properties others = .ok again ∧
      found.map Property.signature = again.map Property.signature) ∧
    ((∃ fault cause, methods tokens = .error fault ∧ methods others = .error cause) ∨
      ∃ found again, methods tokens = .ok found ∧ methods others = .ok again ∧
        found.map Method.signature = again.map Method.signature) :=
  ⟨same.namespaceName?_eq, same.classNames_eq, same.parentName?_eq, same.imports_eq,
    same.properties_eq, same.methods_eq⟩

/-- Comments in place of white space keep the full name of a parent and the methods. -/
theorem declarations_ignore_trivia_commented :
    let tokens : List Token :=
      [.typed (.word .namespaceWord) "namespace" 1, .typed .whitespace " " 1,
       .typed .identifier "A" 1, .symbol ';', .typed (.word .classWord) "class" 1,
       .typed .whitespace " " 1, .typed .identifier "B" 1, .typed .whitespace " " 1,
       .typed (.word .extendsWord) "extends" 1, .typed .whitespace " " 1,
       .typed .identifier "C" 1, .symbol '\x7b', .typed (.word .functionWord) "function" 1,
       .typed .whitespace " " 1, .typed .identifier "f" 1, .symbol '(', .symbol ')',
       .symbol ';', .symbol '\x7d']
    let others : List Token :=
      [.typed (.word .namespaceWord) "namespace" 1, .typed .comment "# class\n" 1,
       .typed .whitespace " " 2, .typed .identifier "A" 2, .symbol ';',
       .typed (.word .classWord) "class" 2, .typed .docComment "/** extends */" 2,
       .typed .identifier "B" 2, .typed .whitespace "\n" 2, .typed .comment "/* ; */" 3,
       .typed .whitespace "\n" 3, .typed (.word .extendsWord) "extends" 4,
       .typed .comment "/* \x7b */" 4, .typed .identifier "C" 4, .symbol '\x7b',
       .typed (.word .functionWord) "function" 4, .typed .comment "/* ( */" 4,
       .typed .identifier "f" 4, .symbol '(', .symbol ')', .symbol ';', .symbol '\x7d']
    SameButTrivia tokens others ∧ parentName? true others = some "A\\C" ∧
      classNames true {} others = ["A\\B"] := by
  intro tokens others
  -- Only the bare tokens and the gaps between them are compared.
  have same : SameButTrivia tokens others := ⟨by decide, by decide⟩
  obtain ⟨-, classes, parent, -⟩ := declarations_ignore_trivia same
  refine ⟨same, ?_, ?_⟩
  · rw [← parent]
    unfold tokens
    cbv
  · rw [← classes]
    unfold tokens
    cbv

end PhpOutline
