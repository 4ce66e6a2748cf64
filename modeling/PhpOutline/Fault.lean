import PhpOutline.Nesting

/-! What can go wrong while tokens are matched, cut or walked. -/

namespace PhpOutline

/-- A cause of failure in the work on tokens. -/
inductive Fault where
  /-- A description is no pattern. -/
  | badPattern (description : String)
  /-- A range of tokens ends before it starts. -/
  | reversedRange (first last : Nat)
  /-- Lines were asked of tokens that carry none. -/
  | noLines
  /-- The delimiter that opens at an index is never closed. -/
  | unclosed (index : Nat) (delimiter : Delimiter)
  /-- The keyword of a function is not followed by a name, seen at an index. -/
  | unnamedFunction (index : Nat)
  /-- A declaration that starts at an index has no function keyword. -/
  | noFunction (index : Nat)
  /-- A declaration that starts at an index has a name but no line. -/
  | noStartLine (index : Nat) (name : String)
  /-- No delimiter opens at an index. -/
  | notAnOpener (index : Nat)
deriving DecidableEq, Repr

/-- The same cause in a list that has more tokens in front. -/
def Fault.shift (offset : Nat) : Fault → Fault
  -- Only the causes that point at a token move.
  | .unclosed index delimiter => .unclosed (index + offset) delimiter
  | .unnamedFunction index => .unnamedFunction (index + offset)
  | .noFunction index => .noFunction (index + offset)
  | .noStartLine index name => .noStartLine (index + offset) name
  | .notAnOpener index => .notAnOpener (index + offset)
  | fault => fault

/-- The message for a mismatch of structure at a token. -/
def mismatchMessage (index : Nat) (reason : String) : String :=
  -- All structural causes share one opening.
  s!"structural mismatch at token {index}: {reason}"

/-- The message of a cause. -/
def Fault.message : Fault → String
  -- Each cause has one wording.
  | .badPattern description => s!"invalid token predicate: {description}"
  | .reversedRange first last => s!"endIndex ({last}) must be greater than startIndex ({first})"
  | .noLines => "no line number found in the given tokens"
  | .unclosed index delimiter =>
    let opener := delimiter.opener
    let closer := delimiter.closer
    mismatchMessage index s!"'{opener}' is never closed by '{closer}'"
  | .unnamedFunction index => mismatchMessage index "function keyword is not followed by a name"
  | .noFunction index => mismatchMessage index "declaration has no function keyword"
  | .noStartLine index name => mismatchMessage index s!"no start line for method {name}"
  | .notAnOpener index => s!"token at {index} is not an opening delimiter"

end PhpOutline
