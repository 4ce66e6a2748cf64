/-! Tokens of a YAML text, and the state of the scanner that cuts them off. -/

namespace PhpOutline

/-- How a scalar is written. -/
inductive ScalarStyle where
  | plain
  | quoted
  | literal
  | folded
deriving DecidableEq, Repr

/-- One lexical unit of a YAML text. -/
inductive YamlToken where
  | versionDirective (major minor : Nat)
  | tagDirective (handle stem : String)
  | documentStart
  | documentEnd
  | blockSequenceStart
  | blockMappingStart
  | blockEnd
  | flowSequenceStart
  | flowSequenceEnd
  | flowMappingStart
  | flowMappingEnd
  | blockEntry
  | flowEntry
  | key
  | value
  | alias (name : String)
  | anchor (name : String)
  | tag (handle suffix : String)
  | scalar (style : ScalarStyle) (text : String)
deriving DecidableEq, Repr

/-- A place at which a key may have started without a mark. -/
structure WaitingKey where
  /-- The number of tokens in front of the key. -/
  position : Nat
  /-- The number of bytes in front of the key. -/
  offset : Nat
  line : Nat
  column : Nat
  /-- Whether nothing else can stand there. -/
  isRequired : Bool

/-- What has been scanned of a YAML text. -/
structure YamlScanner where
  /-- The characters still to scan. -/
  rest : List Char
  /-- The number of bytes scanned. -/
  offset : Nat := 0
  line : Nat := 0
  column : Nat := 0
  /-- The column of the innermost block, or one less than none. -/
  indent : Int := -1
  /-- The columns of the blocks around the innermost one. -/
  outerIndents : List Int := []
  /-- Whether a key may start without a mark. -/
  keyAllowed : Bool := true
  /-- The waiting key outside all brackets. -/
  waiting : Option WaitingKey := none
  /-- For each open bracket, innermost first, the key that waited when it was opened. -/
  outerWaiting : List (Option WaitingKey) := []
  /-- The tokens so far. -/
  tokens : List YamlToken := []

/-- Whether a character ends a line. -/
def isYamlBreak (char : Char) : Bool :=
  -- Carriage returns and next-line characters are line feeds by the time of the scan.
  char == '\n' || char == '\u2028' || char == '\u2029'

/-- Whether a character is a blank or a tab. -/
def isYamlBlank (char : Char) : Bool :=
  -- No other white space counts.
  char == ' ' || char == '\t'

/-- Whether a text ends here, or a line does, or a blank follows. -/
def startsBlank (chars : List Char) : Bool :=
  -- The end of the text counts as a blank.
  match chars with
  | [] => true
  | char :: _ => isYamlBlank char || isYamlBreak char

/-- Whether a text or a line ends here. -/
def startsBreak (chars : List Char) : Bool :=
  -- The end of the text counts as the end of its last line.
  match chars with
  | [] => true
  | char :: _ => isYamlBreak char

/-- Whether a character may be part of the name of an anchor, a handle or a directive. -/
def isYamlWord (char : Char) : Bool :=
  -- Names are made of ASCII characters.
  char.isAlphanum || char == '_' || char == '-'

/-- The scanner one character further. -/
def YamlScanner.skip (scanner : YamlScanner) : YamlScanner :=
  -- Columns count characters, and a line break starts a new line at column zero.
  match scanner.rest with
  | [] => scanner
  | char :: rest =>
    let offset := scanner.offset + char.utf8Size
    if isYamlBreak char then
      { scanner with rest, offset, line := scanner.line + 1, column := 0 }
    else { scanner with rest, offset, column := scanner.column + 1 }

/-- The scanner some characters further. -/
def YamlScanner.advance (scanner : YamlScanner) : Nat → YamlScanner
  -- Each character is counted on its own.
  | 0 => scanner
  | count + 1 => scanner.skip.advance count

/-- The characters from the scanner on that pass a test, and the scanner after them. -/
def YamlScanner.takeWhile (scanner : YamlScanner) (test : Char → Bool) :
    List Char × YamlScanner :=
  -- The first character that fails stays.
  let run := scanner.rest.takeWhile test
  (run, scanner.advance run.length)

/-- The scanner after the characters that pass a test. -/
def YamlScanner.skipWhile (scanner : YamlScanner) (test : Char → Bool) : YamlScanner :=
  -- What is skipped leaves no trace.
  (scanner.takeWhile test).2

/-- Whether brackets are open. -/
def YamlScanner.inFlow (scanner : YamlScanner) : Bool :=
  -- Each open bracket has an entry.
  !scanner.outerWaiting.isEmpty

/-- The scanner with one more token. -/
def YamlScanner.push (scanner : YamlScanner) (token : YamlToken) : YamlScanner :=
  -- Tokens are kept in order.
  { scanner with tokens := scanner.tokens ++ [token] }

/-- The scanner with a token put in front of those from a position on. -/
def YamlScanner.insert (scanner : YamlScanner) (position : Nat) (token : YamlToken) :
    YamlScanner :=
  -- A key is only known as one when its colon comes.
  { scanner with
    tokens := scanner.tokens.take position ++ token :: scanner.tokens.drop position }

/-- Whether the scanner is at the marker of a document: three equal characters on a line. -/
def YamlScanner.atMarker (scanner : YamlScanner) (char : Char) : Bool :=
  -- The marker opens its line and is followed by a blank.
  scanner.column == 0 && [char, char, char].isPrefixOf scanner.rest
    && startsBlank (scanner.rest.drop 3)

/-- Whether the scanner is at the marker that starts or ends a document. -/
def YamlScanner.atDocumentMarker (scanner : YamlScanner) : Bool :=
  -- Hyphens start a document, and dots end it.
  scanner.atMarker '-' || scanner.atMarker '.'

end PhpOutline
