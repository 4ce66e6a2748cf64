import PhpOutline.Fault
import PhpOutline.Text.Basic
import PhpOutline.Text.Quoted
import PhpOutline.Text.Word
import PhpOutline.Token.Basic

/-! Patterns: tests of a single token that can be written as text. -/

namespace PhpOutline

/-- A test of a single token. -/
inductive Pattern where
  | symbol (char : Char)
  | typed (kind : Kind)
  /-- Passes when any member does. -/
  | anyOf (members : List Pattern)
deriving Inhabited

mutual

/-- Whether a token passes a pattern. -/
def Pattern.accepts : Pattern → Token → Bool
  -- A symbol never passes a kind, nor a typed token a symbol.
  | .symbol char, token => token.isSymbol char
  | .typed kind, token => token.isKind kind
  | .anyOf members, token => Pattern.anyAccepts members token

/-- Whether a token passes one of the patterns. -/
def Pattern.anyAccepts : List Pattern → Token → Bool
  -- An empty set passes nothing.
  | [], _ => false
  | member :: members, token => member.accepts token || Pattern.anyAccepts members token

end

/-- A set passes what one of its members passes. -/
theorem Pattern.accepts_anyOf (members : List Pattern) (token : Token) :
    (Pattern.anyOf members).accepts token = members.any fun member => member.accepts token := by
  -- Over the members, which a set asks one after the other.
  rw [accepts]
  induction members with
  | nil => rfl
  | cons member members ih => rw [anyAccepts, ih, List.any_cons]

/-- Whether one of some tokens passes a pattern. -/
def Pattern.acceptsAny (pattern : Pattern) (tokens : List Token) : Bool :=
  -- Among no tokens none passes.
  tokens.any pattern.accepts

/-- The first of some tokens that passes a pattern. -/
def Pattern.findFirst? (pattern : Pattern) (tokens : List Token) : Option Token :=
  -- Tokens behind it are not looked at.
  tokens.find? pattern.accepts

/-- The tokens of a list that pass a pattern. -/
def Pattern.findAll (pattern : Pattern) (tokens : List Token) : List Token :=
  -- Their order stays.
  tokens.filter pattern.accepts

/-- The first token that passes leads all that do, and there is one exactly if any passes. -/
theorem Pattern.findFirst?_eq_head? (pattern : Pattern) (tokens : List Token) :
    pattern.findFirst? tokens = (pattern.findAll tokens).head? ∧
      (pattern.findFirst? tokens).isSome = pattern.acceptsAny tokens := by
  -- The three ask the same test of the tokens in the same order.
  rw [findFirst?, findAll, acceptsAny]
  exact ⟨List.head?_filter.symm, List.isSome_find?⟩

/-- A set of patterns, which has to have a member. -/
def Pattern.ofMembers : List Pattern → Except Fault Pattern
  -- An empty set could never match anything.
  | [] => .error (.badPattern "empty set")
  | members => .ok (.anyOf members)

/-- The pattern that white space passes. -/
def Pattern.whitespace : Pattern :=
  -- Trimming removes white space unless told otherwise.
  .typed .whitespace

/-- White space passes the pattern for it. -/
theorem accepts_whitespace : Pattern.whitespace.accepts = Token.isKind .whitespace := by
  funext token
  rw [Pattern.whitespace, Pattern.accepts]

/-- Whether a character stands for itself in a written pattern. -/
def isPatternSymbol (char : Char) : Bool :=
  -- Letters, digits and the underscore belong to the names of kinds.
  !isBlank char && !isAlphanumeric char && char != '_'

/-- Reads a symbol or the name of a kind, with white space around it. -/
def Pattern.parseMember (chars : List Char) : Except Fault Pattern :=
  -- A lone character that cannot be part of a name is a symbol.
  let trimmed := trimEnds chars
  let named :=
    match Kind.ofName? (String.ofList trimmed) with
    | some kind => .ok (.typed kind)
    | none => .error (.badPattern (quote (String.ofList trimmed)))
  match trimmed with
  | [char] => if isPatternSymbol char then .ok (.symbol char) else named
  | _ => named

/-- Reads a symbol, the name of a kind, or several of those with bars between them. -/
def Pattern.parse (text : String) : Except Fault Pattern :=
  -- A lone bar is a symbol, and any other bar separates members.
  let trimmed := trimEnds text.toList
  if trimmed.length = 1 then Pattern.parseMember trimmed
  else if trimmed.contains '|' then do
    Pattern.ofMembers (← (splitAt (· == '|') trimmed).mapM Pattern.parseMember)
  else Pattern.parseMember trimmed

end PhpOutline
