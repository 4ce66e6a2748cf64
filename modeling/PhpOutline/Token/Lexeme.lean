import PhpOutline.Text.Basic
import PhpOutline.Text.Word
import PhpOutline.Token.Kind

/-! Lexemes: the rules that cut the next token off a text, each giving the length it takes. -/

namespace PhpOutline

/-- The number of leading characters that pass a test. -/
def runLength (test : Char → Bool) : List Char → Nat
  -- The run ends at the first character that fails.
  | [] => 0
  | char :: rest => if test char then runLength test rest + 1 else 0

/-- The length of a line break at the front, which may be absent. -/
def lineBreakLength : List Char → Nat
  -- A carriage return only counts together with its line feed.
  | '\r' :: '\n' :: _ => 2
  | '\n' :: _ => 1
  | _ => 0

/-- The length of the tag that leaves code, with the line break right after it. -/
def closeTagLength : List Char → Nat
  -- The break after the tag belongs to the tag.
  | '?' :: '>' :: rest => 2 + lineBreakLength rest
  | _ => 0

/-- The length of a run of white space. -/
def whitespaceLength (chars : List Char) : Nat :=
  -- White space is never cut into two tokens.
  runLength isBlank chars

/-- The length up to and with the first star and slash, or of everything when there is none. -/
def commentTailLength : List Char → Nat
  -- An unclosed comment runs to the end of the text.
  | '*' :: '/' :: _ => 2
  | _ :: rest => commentTailLength rest + 1
  | [] => 0

/-- The length of a documentation comment, which has white space after its two stars. -/
def docCommentLength : List Char → Nat
  -- Without the white space it is a plain comment.
  | '/' :: '*' :: '*' :: char :: rest => if isBlank char then 4 + commentTailLength rest else 0
  | _ => 0

/-- The length of a comment between slash-star and star-slash. -/
def blockCommentLength : List Char → Nat
  -- The star that opens does not also close.
  | '/' :: '*' :: rest => 2 + commentTailLength rest
  | _ => 0

/-- The length of the mark that opens an attribute group. -/
def attributeLength : List Char → Nat
  -- The bracket has to follow directly.
  | '#' :: '[' :: _ => 2
  | _ => 0

/-- The length of the rest of a line, with its line feed. -/
def lineTailLength (chars : List Char) : Nat :=
  -- The last line of a text may lack its line feed.
  let body := runLength (· != '\n') chars
  if body < chars.length then body + 1 else body

/-- The length of a comment that ends with its line. -/
def lineCommentLength : List Char → Nat
  -- Two slashes open it, or a hash.
  | '/' :: '/' :: rest => 2 + lineTailLength rest
  | '#' :: rest => 1 + lineTailLength rest
  | _ => 0

/-- The length of a word: a reserved word or an identifier. -/
def wordLength : List Char → Nat
  -- A digit continues a word but does not open it.
  | char :: rest => if opensWord char then 1 + runLength isWordChar rest else 0
  | [] => 0

/-- The length of a variable: a dollar sign and a word. -/
def variableLength : List Char → Nat
  -- A dollar sign without a word is a symbol.
  | '$' :: rest => if 0 < wordLength rest then 1 + wordLength rest else 0
  | _ => 0

/-- The length of digits that may have underscores after the first one. -/
def digitsLength : List Char → Nat
  -- An underscore never opens a number.
  | char :: rest =>
    if isDigit char then 1 + runLength (fun next => isDigit next || next == '_') rest else 0
  | [] => 0

/-- The length of an exponent: the letter, an optional sign and digits without underscores. -/
def exponentLength : List Char → Nat
  -- Without a digit there is no exponent at all.
  | char :: rest =>
    if char == 'e' || char == 'E' then
      let sign :=
        match rest with
        | next :: _ => if next == '+' || next == '-' then 1 else 0
        | [] => 0
      let digits := runLength isDigit (rest.drop sign)
      if 0 < digits then 1 + sign + digits else 0
    else 0
  | [] => 0

/-- The length of a point and the digits that have to follow it. -/
def fractionLength : List Char → Nat
  -- A point without a digit belongs to something else.
  | '.' :: rest => if 0 < digitsLength rest then 1 + digitsLength rest else 0
  | _ => 0

/-- The length of a number with a fraction or an exponent. -/
def decimalLength (chars : List Char) : Nat :=
  -- The digits before the point may be missing, but not before a bare exponent.
  let whole := digitsLength chars
  let fraction := fractionLength (chars.drop whole)
  if 0 < fraction then whole + fraction + exponentLength (chars.drop (whole + fraction))
  else if 0 < whole && 0 < exponentLength (chars.drop whole) then
    whole + exponentLength (chars.drop whole)
  else 0

/-- Whether a character is a hexadecimal digit or an underscore. -/
def isHexadecimal (char : Char) : Bool :=
  -- Only the digits of ASCII count here.
  char.isDigit || ('a' ≤ char && char ≤ 'f') || ('A' ≤ char && char ≤ 'F') || char == '_'

/-- Whether a character is a binary digit or an underscore. -/
def isBinary (char : Char) : Bool :=
  -- Any other digit ends the number.
  char == '0' || char == '1' || char == '_'

/-- The length of a whole number in base sixteen, two or ten. -/
def integerLength (chars : List Char) : Nat :=
  -- A base without digits is a zero followed by a word.
  match chars with
  | '0' :: base :: rest =>
    if (base == 'x' || base == 'X') && 0 < runLength isHexadecimal rest then
      2 + runLength isHexadecimal rest
    else if (base == 'b' || base == 'B') && 0 < runLength isBinary rest then
      2 + runLength isBinary rest
    else digitsLength chars
  | _ => digitsLength chars

/-- The length up to and with the closing quote, or zero when the quote never comes. -/
def stringTailLength (quoteMark : Char) : List Char → Nat
  -- A backslash takes the character after it along, whatever that is.
  | '\\' :: _ :: rest =>
    let tail := stringTailLength quoteMark rest
    if 0 < tail then tail + 2 else 0
  | char :: rest =>
    if char == quoteMark then 1
    else if char == '\\' then 0
    else
      let tail := stringTailLength quoteMark rest
      if 0 < tail then tail + 1 else 0
  | [] => 0

/-- The length of a string between single or double quotes. -/
def stringLength : List Char → Nat
  -- An unclosed quote is a symbol.
  | char :: rest =>
    if char == '\'' || char == '"' then
      let tail := stringTailLength char rest
      if 0 < tail then tail + 1 else 0
    else 0
  | [] => 0

/-- The types that a cast may name. -/
def castTypes : List String :=
  -- Each type is compared without regard to case.
  ["int", "integer", "bool", "boolean", "float", "double", "real", "string", "binary", "array",
   "object", "unset"]

/-- A character with its case folded onto the small letters of ASCII. -/
def foldCase (char : Char) : Char :=
  -- Two characters outside ASCII fold onto a small letter: the long s and the kelvin sign.
  if char == '\u017F' then 's' else if char == '\u212A' then 'k' else char.toLower

/-- Whether a character may pad the type of a cast. -/
def isCastPadding (char : Char) : Bool :=
  -- A line break is no padding.
  char == ' ' || char == '\t'

/-- The length of a cast: a type between parentheses, with blanks and tabs around it. -/
def castLength : List Char → Nat
  -- The type is everything up to padding or the closing parenthesis.
  | '(' :: rest =>
    let before := runLength isCastPadding rest
    let inner := rest.drop before
    let type := runLength (fun char => !isCastPadding char && char != ')') inner
    let after := runLength isCastPadding (inner.drop type)
    let named := castTypes.any fun name => name.toList == (inner.take type).map foldCase
    match inner.drop (type + after) with
    | ')' :: _ => if named then 2 + before + type + after else 0
    | _ => 0
  | _ => 0

/-- The operators of more than one character. -/
def operators : List String :=
  -- An operator stands before every operator that it starts with.
  ["?->", "<=>", "**=", "??=", "<<=", ">>=", "===", "!==", "...", "::", "->", "=>", "<<", ">>",
   "<=", ">=", "==", "!=", "<>", "++", "--", "+=", "-=", "*=", "/=", ".=", "%=", "&=", "|=", "^=",
   "&&", "||", "??", "**"]

/-- The length of an operator of more than one character. -/
def operatorLength (chars : List Char) : Nat :=
  -- The first operator of the list that fits is the longest.
  match operators.find? fun operator => operator.toList.isPrefixOf chars with
  | some operator => operator.length
  | none => 0

/-- The length of a backslash between the parts of a name. -/
def separatorLength : List Char → Nat
  -- Each backslash is a token of its own.
  | '\\' :: _ => 1
  | _ => 0

/-- The length of the tag that enters code: `<?php` with one blank after it, or `<?=`. -/
def openTagLength : List Char → Nat
  -- The three letters may have any case, and the blank may be a whole line break.
  | '<' :: '?' :: '=' :: _ => 3
  | '<' :: '?' :: first :: second :: third :: rest =>
    if [first, second, third].map foldCase == ['p', 'h', 'p'] then
      match rest with
      | '\r' :: '\n' :: _ => 7
      | char :: _ => if isBlank char then 6 else 5
      | [] => 5
    else 0
  | _ => 0

/-- The kind of a word. -/
def kindOfWord (text : String) : Kind :=
  -- A word that is not reserved is an identifier.
  match Keyword.ofText? text with
  | some keyword => .word keyword
  | none => .identifier

/-- The kind of an operator. -/
def kindOfOperator (text : String) : Kind :=
  -- Four sorts of operators have a kind of their own.
  if text == "::" then .doubleColon
  else if text == "->" || text == "?->" then .objectArrow
  else if text == "=>" then .doubleArrow
  else if text == "..." then .ellipsis
  else .operator

/-- A way to cut one sort of token off a text. -/
structure LexicalRule where
  /-- The length of the token at the front, or zero when none of the sort stands there. -/
  length : List Char → Nat
  /-- The kind of a token of the sort, which may depend on its text. -/
  kind : String → Kind

/-- The rules for code, of which the first that applies decides. -/
def lexicalRules : List LexicalRule :=
  -- A documentation comment is tried before a comment, and an attribute before a line comment.
  [⟨closeTagLength, fun _ => .closeTag⟩,
   ⟨whitespaceLength, fun _ => .whitespace⟩,
   ⟨docCommentLength, fun _ => .docComment⟩,
   ⟨blockCommentLength, fun _ => .comment⟩,
   ⟨attributeLength, fun _ => .attributeOpen⟩,
   ⟨lineCommentLength, fun _ => .comment⟩,
   ⟨variableLength, fun _ => .variableName⟩,
   ⟨wordLength, kindOfWord⟩,
   ⟨decimalLength, fun _ => .decimal⟩,
   ⟨integerLength, fun _ => .integer⟩,
   ⟨stringLength, fun _ => .stringLiteral⟩,
   ⟨castLength, fun _ => .cast⟩,
   ⟨operatorLength, kindOfOperator⟩,
   ⟨separatorLength, fun _ => .nameSeparator⟩]

end PhpOutline
