import PhpOutline.Heritage
import PhpOutline.Method
import PhpOutline.Proofs.Span
import PhpOutline.Property

/-!
What each recognizer reports, in terms of what was seen at its site.

There is one statement for each of the eight recognizers.
Nothing after this module has to open a recognizer again.
-/

namespace PhpOutline

/-- A namespace declaration ends on a semicolon or a brace. -/
theorem namespaceEnd_spec {after : List Token} {stop : Nat}
    (found : namespaceEnd after = some stop) :
    after[stop]? = some (.symbol ';') ∨ after[stop]? = some (.symbol '{') := by
  -- Every token that is passed over adds one to the offset of the end.
  induction after generalizing stop with
  | nil => simp [namespaceEnd] at found
  | cons token rest ih =>
    simp only [namespaceEnd] at found
    split at found
    · rename_i ends
      obtain rfl := Option.some.inj found
      simpa [Token.isSymbol_iff] using ends
    · split at found
      · obtain ⟨later, ended, rfl⟩ := Option.map_eq_some_iff.mp found
        simpa using ih ended
      · simp at found

/-- A reported namespace runs from its keyword to what ends it. -/
theorem recognizeNamespace_report {site : Site} {span : Span} {last : Nat}
    (reported : recognizeNamespace site = .report span last) :
    ∃ keyword after stop, site.ahead = keyword :: after ∧
      keyword.isWord .namespaceWord = true ∧ namespaceEnd after = some stop ∧
      span = { first := site.index, last := site.index + 1 + stop } ∧ last = 1 + stop := by
  unfold recognizeNamespace at reported
  split at reported
  · simp at reported
  · rename_i keyword after ahead
    split at reported
    · -- The keyword is followed by white space or a brace, and the name behind it ends.
      rename_i seen
      split at reported
      · rename_i stop ended
        simp only [Bool.and_eq_true] at seen
        simp only [Verdict.report.injEq] at reported
        exact ⟨keyword, after, stop, ahead, seen.1, ended, reported.1.symm, reported.2.symm⟩
      · simp at reported
    · simp at reported

/-- A reported class name is the name that follows the keyword of a declaration. -/
theorem recognizeClassName_report {filter : ClassFilter} {site : Site} {span : Span} {last : Nat}
    (reported : recognizeClassName filter site = .report span last) :
    ∃ keyword after offset, site.ahead = keyword :: after ∧ filter.wants keyword = true ∧
      declaresClass site = true ∧ classNameOffset after = some offset ∧
      span = { first := site.index + 1 + offset, last := site.index + 1 + offset } ∧
      last = 1 + offset := by
  unfold recognizeClassName at reported
  split at reported
  · simp at reported
  · rename_i keyword after ahead
    split at reported
    · -- The keyword is one that the filter wants, and it declares a class that has a name.
      rename_i seen
      split at reported
      · rename_i offset named
        simp only [Bool.and_eq_true] at seen
        simp only [Verdict.report.injEq] at reported
        exact ⟨keyword, after, offset, ahead, seen.1, seen.2, named, reported.1.symm,
          reported.2.symm⟩
      · simp at reported
    · simp at reported

/-- A reported brace is the first one after the keyword of a declaration, which is its mark. -/
theorem recognizeClassBrace_report {site : Site} {span : Span} {last : Nat}
    (reported : recognizeClassBrace site = .report span last) :
    ∃ keyword after offset, site.ahead = keyword :: after ∧ declaresClass site = true ∧
      after.findIdx? (Token.isSymbol '{') = some offset ∧
      span = { first := site.index + 1 + offset, last := site.index + 1 + offset,
               mark? := some site.index } ∧
      last = 1 + offset := by
  unfold recognizeClassBrace at reported
  split at reported
  · simp at reported
  · rename_i keyword after ahead
    split at reported
    · -- The keyword declares a class, and a brace stands somewhere behind it.
      rename_i declared
      split at reported
      · rename_i offset opened
        simp only [Verdict.report.injEq] at reported
        exact ⟨keyword, after, offset, ahead, declared, opened, reported.1.symm, reported.2.symm⟩
      · simp at reported
    · simp at reported

/-- A reported parent is the qualified name that follows its keyword. -/
theorem recognizeParent_report {site : Site} {span : Span} {last : Nat}
    (reported : recognizeParent site = .report span last) :
    ∃ keyword after start stop, site.ahead = keyword :: after ∧
      keyword.isWord .extendsWord = true ∧ qualifiedNameOffsets after = some (start, stop) ∧
      span = { first := site.index + 1 + start, last := site.index + 1 + stop } ∧
      last = 1 + stop := by
  unfold recognizeParent at reported
  split at reported
  · simp at reported
  · rename_i keyword after ahead
    simp only at reported
    split at reported
    · -- The keyword follows what may have a parent, and a qualified name stands behind it.
      rename_i seen
      split at reported
      · rename_i start stop named
        simp only [Bool.and_eq_true] at seen
        simp only [Verdict.report.injEq] at reported
        exact ⟨keyword, after, start, stop, ahead, seen.1, named, reported.1.symm,
          reported.2.symm⟩
      · simp at reported
    · simp at reported

/-- The number of tokens of a list of interfaces, without the white space at its end. -/
def interfacesLength (after : List Token) (start brace : Nat) : Nat :=
  -- The list starts at one offset and the brace of the body stands at the other.
  (((after.take brace).drop start).reverse.dropWhile (Token.isKind .whitespace)).length

/-- Reported interfaces stand between their keyword and the brace of the body. -/
theorem recognizeInterfaces_report {site : Site} {span : Span} {last : Nat}
    (reported : recognizeInterfaces site = .report span last) :
    ∃ keyword after start brace, site.ahead = keyword :: after ∧
      keyword.isWord .implementsWord = true ∧ significantFrom after 0 = some start ∧
      findFrom (fun next => next.isSymbol '{' || next.isSymbol ';') after start = some brace ∧
      after[brace]? = some (.symbol '{') ∧ start < brace ∧
      span = { first := site.index + 1 + start,
               last := site.index + start + interfacesLength after start brace } ∧
      last = 1 + brace := by
  unfold recognizeInterfaces at reported
  split at reported
  · simp at reported
  · rename_i keyword after ahead
    split at reported
    · rename_i seen
      split at reported
      · simp at reported
      · rename_i start significant
        split at reported
        · simp at reported
        · rename_i brace located
          split at reported
          · -- The search stops at a brace and not at a semicolon, with a name in front of it.
            rename_i opened
            simp only [Bool.and_eq_true, decide_eq_true_eq, Option.any_eq_true,
              Token.isSymbol_iff] at opened
            obtain ⟨⟨token, present, rfl⟩, apart⟩ := opened
            simp only [Verdict.report.injEq] at reported
            exact ⟨keyword, after, start, brace, ahead, seen, significant, located, present, apart,
              reported.1.symm, reported.2.symm⟩
          · simp at reported
    · simp at reported

/-- A reported import runs from its keyword to the next semicolon, outside all class bodies. -/
theorem recognizeImport_report {bodies : List Body} {site : Site} {span : Span} {last : Nat}
    (reported : recognizeImport bodies site = .report span last) :
    ∃ keyword after stop, site.ahead = keyword :: after ∧
      bodies.find? (fun body => body.contains site.index) = none ∧
      keyword.isWord .useWord = true ∧ startsStatement site.behind = true ∧
      after.findIdx? (Token.isSymbol ';') = some stop ∧
      span = { first := site.index, last := site.index + 1 + stop } ∧ last = 1 + stop := by
  unfold recognizeImport at reported
  split at reported
  · simp at reported
  · rename_i keyword after ahead
    split at reported
    · simp at reported
    · rename_i outside
      split at reported
      · -- The site lies in no body, and the keyword starts a statement that has a semicolon.
        rename_i seen
        split at reported
        · rename_i stop ended
          simp only [Bool.and_eq_true] at seen
          simp only [Verdict.report.injEq] at reported
          exact ⟨keyword, after, stop, ahead, outside, seen.1, seen.2, ended, reported.1.symm,
            reported.2.symm⟩
        · simp at reported
      · simp at reported

/-- A reported property is a statement that declares a variable, with the comments before it. -/
theorem recognizeProperty_report {site : Site} {span : Span} {last : Nat}
    (reported : recognizeProperty site = .report span last) :
    ∃ keyword after variableOffset, site.ahead = keyword :: after ∧
      keyword.isPropertyModifier = true ∧ startsStatement site.behind = true ∧
      readStatement site.ahead = .declares variableOffset last ∧
      span = { first := site.index - leadingLength (fun _ => false) site.behind,
               last := site.index + last, mark? := some (site.index + variableOffset) } := by
  unfold recognizeProperty at reported
  split at reported
  · simp at reported
  · rename_i keyword after ahead
    split at reported
    · split at reported <;> simp at reported
    · split at reported
      · -- The modifier starts a statement, and the statement can be read as one that declares a
        -- variable.
        rename_i seen
        split at reported
        · rename_i variableOffset lastOffset declared
          simp only [Bool.and_eq_true] at seen
          simp only [Verdict.report.injEq] at reported
          obtain ⟨rfl, rfl⟩ := reported
          exact ⟨keyword, after, variableOffset, ahead, seen.1, seen.2, declared, rfl⟩
        · simp at reported
        · simp at reported
      · simp at reported

/-- A reported method is a named function with its comments and modifiers, up to its end. -/
theorem recognizeMethod_report {site : Site} {span : Span} {last : Nat}
    (reported : recognizeMethod site = .report span last) :
    ∃ keyword after name stop, site.ahead = keyword :: after ∧
      keyword.isWord .functionWord = true ∧ followsUse site.behind = false ∧
      functionNameOffset after = some name ∧ declarationEnd after = some stop ∧
      span = { first := site.index - leadingLength Token.isMethodModifier site.behind,
               last := site.index + 1 + stop, mark? := some site.index } ∧
      last = 1 + stop := by
  unfold recognizeMethod at reported
  split at reported
  · simp at reported
  · rename_i keyword after ahead
    split at reported
    · -- The keyword has a name and belongs to no import, and its declaration ends.
      rename_i seen
      split at reported
      · rename_i stop ended
        simp only [Bool.and_eq_true, Bool.not_eq_true', Option.isSome_iff_exists] at seen
        obtain ⟨⟨keyed, imported⟩, name, named⟩ := seen
        simp only [Verdict.report.injEq] at reported
        exact ⟨keyword, after, name, stop, ahead, keyed, imported, named, ended,
          reported.1.symm, reported.2.symm⟩
      · simp at reported
    · simp at reported

end PhpOutline
