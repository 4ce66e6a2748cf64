import PhpOutline.Text.Basic
import PhpOutline.Token.Basic

/-! Comments that belong to a declaration. -/

namespace PhpOutline

/-- The two sorts of comments. -/
inductive CommentSort where
  | regular
  | docBlock
deriving DecidableEq, Repr

/-- The name of a sort of comments. -/
def CommentSort.name : CommentSort → String
  -- Reports use these names.
  | .regular => "regular"
  | .docBlock => "docBlock"

/-- A comment with the lines of its first and last character. -/
structure Comment where
  sort : CommentSort
  text : String
  firstLine : Nat
  lastLine : Nat
deriving DecidableEq, Repr

/-- Whether a text reads as a comment that ends with its line. -/
def isLineComment (text : String) : Bool :=
  -- White space in front does not matter.
  let chars := trimFront text.toList
  ['/', '/'].isPrefixOf chars || ['#'].isPrefixOf chars

/-- The comment with a text that starts on a line. -/
def Comment.ofText (sort : CommentSort) (text : String) (line : Nat) : Comment :=
  -- A line comment ends on its own line although its text holds the line feed.
  let lastLine := if isLineComment text then line else line + lineFeeds text
  { sort, text, firstLine := line, lastLine }

/-- The comment that a token is. -/
def Comment.ofToken? : Token → Option Comment
  -- The kind of the token is the sort of the comment.
  | .typed .comment text line => some (Comment.ofText .regular text line)
  | .typed .docComment text line => some (Comment.ofText .docBlock text line)
  | _ => none

end PhpOutline
