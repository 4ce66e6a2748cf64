import PhpOutline.Yaml.Scalar
import PhpOutline.Yaml.Token

/-! Scanning: a YAML text cut into tokens, with its indentation made explicit. -/

namespace PhpOutline

/-- The longest distance between the start of a key and its colon, in bytes. -/
def longestKey : Nat :=
  -- Longer texts are never keys without a mark.
  1024

/-- Whether a waiting key can no longer be followed by its colon. -/
def WaitingKey.isStale (key : WaitingKey) (scanner : YamlScanner) : Bool :=
  -- A key stays on its line.
  key.line < scanner.line || key.offset + longestKey < scanner.offset

/-- A waiting key unless it is stale, where a required key must not be. -/
def YamlScanner.refresh (scanner : YamlScanner) (waiting : Option WaitingKey) :
    Option (Option WaitingKey) :=
  -- A required key without a colon is an error.
  match waiting with
  | none => some none
  | some key =>
    if key.isStale scanner then if key.isRequired then none else some none else some (some key)

/-- The scanner without the keys that are stale. -/
def YamlScanner.dropStale (scanner : YamlScanner) : Option YamlScanner := do
  -- Keys outside the brackets go stale too.
  let waiting ← scanner.refresh scanner.waiting
  let outerWaiting ← scanner.outerWaiting.mapM scanner.refresh
  return { scanner with waiting, outerWaiting }

/-- The scanner without its waiting key, which must not be required. -/
def YamlScanner.dropKey (scanner : YamlScanner) : Option YamlScanner :=
  -- A required key cannot be anything else.
  if scanner.waiting.any WaitingKey.isRequired then none
  else some { scanner with waiting := none }

/-- The scanner with a key waiting here, if one may start. -/
def YamlScanner.awaitKey (scanner : YamlScanner) : Option YamlScanner := do
  -- At the column of its block nothing but a key can start.
  if scanner.keyAllowed then
    let cleared ← scanner.dropKey
    let key : WaitingKey :=
      { position := scanner.tokens.length, offset := scanner.offset, line := scanner.line
        column := scanner.column
        isRequired := !scanner.inFlow && scanner.indent == scanner.column }
    return { cleared with waiting := some key }
  else return scanner

/-- The scanner inside a block that starts at a column, with its token put at a position. -/
def YamlScanner.indentTo (scanner : YamlScanner) (column position : Nat) (token : YamlToken) :
    YamlScanner :=
  -- Between brackets indentation means nothing.
  if !scanner.inFlow && scanner.indent < column then
    { scanner.insert position token with
      indent := column, outerIndents := scanner.indent :: scanner.outerIndents }
  else scanner

/-- The tokens that end the blocks deeper than a column, and the blocks that are left. -/
def closeBlocks (column indent : Int) : List Int → Nat × Int × List Int
  -- Each block that is left ends with a token.
  | [] => if column < indent then (1, -1, []) else (0, indent, [])
  | outer :: outers =>
    if column < indent then
      let (count, rest) := closeBlocks column outer outers
      (count + 1, rest)
    else (0, indent, outer :: outers)

/-- The scanner with the blocks deeper than a column ended. -/
def YamlScanner.dedentTo (scanner : YamlScanner) (column : Int) : YamlScanner :=
  -- Between brackets indentation means nothing.
  if scanner.inFlow then scanner
  else
    let (count, indent, outerIndents) :=
      closeBlocks column scanner.indent scanner.outerIndents
    { scanner with
      indent, outerIndents, tokens := scanner.tokens ++ List.replicate count .blockEnd }

/-- The scanner at the next token, past white space and comments. -/
def YamlScanner.skipToToken (scanner : YamlScanner) : Nat → YamlScanner
  -- A byte order mark may open any line, and a tab is only skipped where no key may start.
  | 0 => scanner
  | fuel + 1 =>
    let marked := if scanner.column == 0 && scanner.rest.head? == some '\uFEFF' then scanner.skip
      else scanner
    let blanks := marked.skipWhile fun char =>
      char == ' ' || (marked.inFlow || !marked.keyAllowed) && char == '\t'
    let comment := if blanks.rest.head? == some '#' then
        blanks.skipWhile fun char => !isYamlBreak char
      else blanks
    if comment.rest.head?.any isYamlBreak then
      let next := comment.skip
      { next with keyAllowed := next.keyAllowed || !next.inFlow }.skipToToken fuel
    else comment

/-- Reads an opening bracket. -/
def YamlScanner.openFlow (scanner : YamlScanner) (token : YamlToken) : Option YamlScanner := do
  -- The whole collection may be a key.
  let saved ← scanner.awaitKey
  let opened :=
    { saved with
      waiting := none, outerWaiting := saved.waiting :: saved.outerWaiting, keyAllowed := true }
  return opened.skip.push token

/-- Reads a closing bracket. -/
def YamlScanner.closeFlow (scanner : YamlScanner) (token : YamlToken) : Option YamlScanner := do
  -- The key that waited outside the brackets waits again.
  let cleared ← scanner.dropKey
  let closed := match cleared.outerWaiting with
    | [] => cleared
    | waiting :: outerWaiting => { cleared with waiting, outerWaiting }
  return { closed with keyAllowed := false }.skip.push token

/-- Reads a comma. -/
def YamlScanner.readComma (scanner : YamlScanner) : Option YamlScanner := do
  -- A key may follow.
  let cleared ← scanner.dropKey
  return { cleared with keyAllowed := true }.skip.push .flowEntry

/-- Reads the hyphen of an entry. -/
def YamlScanner.readEntry (scanner : YamlScanner) : Option YamlScanner := do
  -- Outside brackets it has to start where a key may start.
  if !scanner.inFlow && !scanner.keyAllowed then none
  let indented := scanner.indentTo scanner.column scanner.tokens.length .blockSequenceStart
  let cleared ← indented.dropKey
  return { cleared with keyAllowed := true }.skip.push .blockEntry

/-- Reads the question mark of a key. -/
def YamlScanner.readKey (scanner : YamlScanner) : Option YamlScanner := do
  -- Outside brackets it has to start where a key may start.
  if !scanner.inFlow && !scanner.keyAllowed then none
  let indented := scanner.indentTo scanner.column scanner.tokens.length .blockMappingStart
  let cleared ← indented.dropKey
  return { cleared with keyAllowed := !scanner.inFlow }.skip.push .key

/-- Reads the colon of a value. -/
def YamlScanner.readValue (scanner : YamlScanner) : Option YamlScanner := do
  -- A waiting key is a key from now on, and its block starts in front of it.
  match scanner.waiting with
  | some key =>
    let marked := (scanner.insert key.position .key).indentTo key.column key.position
      .blockMappingStart
    return { marked with waiting := none, keyAllowed := false }.skip.push .value
  | none =>
    if !scanner.inFlow && !scanner.keyAllowed then none
    let indented := scanner.indentTo scanner.column scanner.tokens.length .blockMappingStart
    return { indented with keyAllowed := !scanner.inFlow }.skip.push .value

/-- Reads the name of an anchor or an alias. -/
def YamlScanner.readName (scanner : YamlScanner) (token : String → YamlToken) :
    Option YamlScanner := do
  -- Only white space and a few indicators may follow the name.
  let saved ← scanner.awaitKey
  let (name, after) := saved.skip.takeWhile isYamlWord
  let ends := startsBlank after.rest || after.rest.head?.any fun char =>
    ['?', ':', ',', ']', '}', '%', '@', '\x60'].contains char
  if name.isEmpty || !ends then none
  return { after with keyAllowed := false }.push (token (String.ofList name))

/-- The punctuation that may be part of a tag. -/
def tagPunctuation : List Char :=
  -- These characters need no escape.
  [';', '/', '?', ':', '@', '&', '=', '+', '$', '.', '%', '!', '~', '*', '\'', '(', ')']

/-- Whether a character may be part of a tag, between angle brackets or without them. -/
def isTagChar (verbatim : Bool) (char : Char) : Bool :=
  -- Commas and brackets are only allowed between angle brackets.
  isYamlWord char || tagPunctuation.contains char || verbatim && [',', '[', ']'].contains char

/-- The octets of a tag, with its percent escapes resolved. -/
def tagOctets? : List Char → Option (List Nat)
  -- Two hexadecimal digits have to follow a percent sign, and all else is ASCII.
  | [] => some []
  | '%' :: high :: low :: rest => do return (← hexValue? [high, low]) :: (← tagOctets? rest)
  | '%' :: _ => none
  | char :: rest => do return char.toNat :: (← tagOctets? rest)

/-- The number of octets that have to follow one that starts a character. -/
def trailingOctets? (lead : Nat) : Option Nat :=
  -- The leading ones of the octet count the octets of the character.
  if lead < 0x80 then some 0
  else if lead < 0xC0 then none
  else if lead < 0xE0 then some 1
  else if lead < 0xF0 then some 2
  else if lead < 0xF8 then some 3
  else none

/-- Whether octets make up whole characters, after the start of one that lacks some. -/
def areWholeOctets : Nat → List Nat → Bool
  -- Which characters they make up does not matter.
  | missing, [] => missing == 0
  | 0, lead :: rest =>
    match trailingOctets? lead with
    | some missing => areWholeOctets missing rest
    | none => false
  | missing + 1, octet :: rest => 0x80 ≤ octet && octet < 0xC0 && areWholeOctets missing rest

/-- The tag that a list of characters writes, with one character for each octet. -/
def tagText? (chars : List Char) : Option String := do
  -- A zero ends the tag.
  let octets ← tagOctets? chars
  if areWholeOctets 0 octets then
    some (String.ofList ((octets.takeWhile (· != 0)).map Char.ofNat))
  else none

/-- The length of the handle at the front of a tag. -/
def handleLength (chars : List Char) : Nat :=
  -- A handle starts with an exclamation mark, and may end with one.
  let word := ((chars.drop 1).takeWhile isYamlWord).length
  if chars[1 + word]? == some '!' then word + 2 else word + 1

/-- Reads a tag. -/
def YamlScanner.readTag (scanner : YamlScanner) : Option YamlScanner := do
  -- A lone exclamation mark is a tag of its own.
  let saved ← scanner.awaitKey
  let (token, after) ←
    if saved.rest[1]? == some '<' then do
      let (text, after) := (saved.advance 2).takeWhile (isTagChar true)
      let suffix ← tagText? text
      if text.isEmpty || after.rest.head? != some '>' then none
      some (YamlToken.tag "" suffix, after.skip)
    else do
      let handle := saved.rest.take (handleLength saved.rest)
      if 1 < handle.length && handle.getLast? == some '!' then
        let (text, after) := (saved.advance handle.length).takeWhile (isTagChar false)
        let suffix ← tagText? text
        if text.isEmpty then none
        some (YamlToken.tag (String.ofList handle) suffix, after)
      else
        let (text, after) := saved.skip.takeWhile (isTagChar false)
        let suffix ← tagText? text
        if suffix.isEmpty then some (YamlToken.tag "" "!", after)
        else some (YamlToken.tag "!" suffix, after)
  let ends := startsBlank after.rest || scanner.inFlow && after.rest.head? == some ','
  if !ends then none
  return { after with keyAllowed := false }.push token

/-- Reads a plain scalar. -/
def YamlScanner.readPlainScalar (scanner : YamlScanner) : Option YamlScanner := do
  -- After a line break a key may start again.
  let saved ← scanner.awaitKey
  let (text, gap, after) ←
    { saved with keyAllowed := false }.readPlain [] {} (saved.rest.length + 1)
  return { after with keyAllowed := gap.hasBreak }.push (.scalar .plain (String.ofList text))

/-- Reads a quoted scalar. -/
def YamlScanner.readQuotedScalar (scanner : YamlScanner) (isSingle : Bool) :
    Option YamlScanner := do
  -- A quoted scalar may be a key.
  let saved ← scanner.awaitKey
  let (text, after) ← { saved with keyAllowed := false }.skip.readQuoted isSingle []
    (saved.rest.length + 1)
  return after.push (.scalar .quoted (String.ofList text))

/-- Reads a block scalar. -/
def YamlScanner.readBlockScalar (scanner : YamlScanner) (isFolded : Bool) :
    Option YamlScanner := do
  -- A block scalar is never a key, and a key may follow it.
  let cleared ← scanner.dropKey
  let (text, after) ← { cleared with keyAllowed := true }.skip.readBlock isFolded
  let style := if isFolded then ScalarStyle.folded else .literal
  return after.push (.scalar style (String.ofList text))

/-- Reads a number of at most nine digits. -/
def YamlScanner.readNumber (scanner : YamlScanner) : Option (Nat × YamlScanner) :=
  -- At least one digit is needed.
  let (digits, after) := scanner.takeWhile Char.isDigit
  if digits.isEmpty || 9 < digits.length then none
  else some (digits.foldl (fun value digit => value * 10 + (digit.toNat - '0'.toNat)) 0, after)

/-- Reads the content of a directive after its name. -/
def YamlScanner.readDirectiveContent (scanner : YamlScanner) (name : String) :
    Option (YamlToken × YamlScanner) := do
  -- Only versions and tags can be directed.
  let start := scanner.skipWhile isYamlBlank
  if name == "YAML" then
    let (major, after) ← start.readNumber
    if after.rest.head? != some '.' then none
    let (minor, final) ← after.skip.readNumber
    return (.versionDirective major minor, final)
  else if name == "TAG" then
    if start.rest.head? != some '!' then none
    let handle := start.rest.take (handleLength start.rest)
    if handle != ['!'] && handle.getLast? != some '!' then none
    let after := start.advance handle.length
    if !after.rest.head?.any isYamlBlank then none
    let (text, final) := (after.skipWhile isYamlBlank).takeWhile (isTagChar true)
    let stem ← tagText? text
    if text.isEmpty || !startsBlank final.rest then none
    return (.tagDirective (String.ofList handle) stem, final)
  else none

/-- Reads a directive. -/
def YamlScanner.readDirective (scanner : YamlScanner) : Option YamlScanner := do
  -- A directive takes a whole line, outside every block.
  let cleared ← (scanner.dedentTo (-1)).dropKey
  let (name, named) := { cleared with keyAllowed := false }.skip.takeWhile isYamlWord
  if name.isEmpty || !startsBlank named.rest then none
  let (token, content) ← named.readDirectiveContent (String.ofList name)
  let blanks := content.skipWhile isYamlBlank
  let comment := if blanks.rest.head? == some '#' then
      blanks.skipWhile fun char => !isYamlBreak char
    else blanks
  if !startsBreak comment.rest then none
  return comment.skip.push token

/-- Reads the marker of a document. -/
def YamlScanner.readMarker (scanner : YamlScanner) (token : YamlToken) : Option YamlScanner := do
  -- A marker ends every block.
  let cleared ← (scanner.dedentTo (-1)).dropKey
  return ({ cleared with keyAllowed := false }.advance 3).push token

/-- Whether a plain scalar may start with these characters. -/
def startsPlain (inFlow : Bool) (chars : List Char) : Bool :=
  -- Most indicators may not start one, and some may before certain characters.
  match chars with
  | [] => false
  | char :: rest =>
    let indicator := ['-', '?', ':', ',', '[', ']', '{', '}', '#', '&', '*', '!', '|', '>', '\'',
      '"', '%', '@', '\x60'].contains char
    !(isYamlBlank char || isYamlBreak char || indicator)
      || char == '-' && !rest.head?.any isYamlBlank
      || !inFlow && (char == '?' || char == ':') && !startsBlank rest

/-- Reads one token of a text that has not ended, at its first character. -/
def YamlScanner.readToken (scanner : YamlScanner) : Option YamlScanner :=
  -- The first characters decide, and a plain scalar is tried last.
  let char? := scanner.rest.head?
  let next := scanner.rest.drop 1
  if scanner.column == 0 && char? == some '%' then scanner.readDirective
  else if scanner.atMarker '-' then scanner.readMarker .documentStart
  else if scanner.atMarker '.' then scanner.readMarker .documentEnd
  else if char? == some '[' then scanner.openFlow .flowSequenceStart
  else if char? == some '{' then scanner.openFlow .flowMappingStart
  else if char? == some ']' then scanner.closeFlow .flowSequenceEnd
  else if char? == some '}' then scanner.closeFlow .flowMappingEnd
  else if char? == some ',' then scanner.readComma
  else if char? == some '-' && startsBlank next then scanner.readEntry
  else if char? == some '?' && (scanner.inFlow || startsBlank next) then scanner.readKey
  else if char? == some ':' && (scanner.inFlow || startsBlank next) then scanner.readValue
  else if char? == some '*' then scanner.readName .alias
  else if char? == some '&' then scanner.readName .anchor
  else if char? == some '!' then scanner.readTag
  else if char? == some '|' && !scanner.inFlow then scanner.readBlockScalar false
  else if char? == some '>' && !scanner.inFlow then scanner.readBlockScalar true
  else if char? == some '\'' then scanner.readQuotedScalar true
  else if char? == some '"' then scanner.readQuotedScalar false
  else if startsPlain scanner.inFlow scanner.rest then scanner.readPlainScalar
  else none

/-- Reads all tokens up to the end of the text. -/
def YamlScanner.readAll (scanner : YamlScanner) : Nat → Option (List YamlToken)
  -- The end of the text ends every block.
  | 0 => none
  | fuel + 1 => do
    let placed := scanner.skipToToken (scanner.rest.length + 1)
    let fresh ← placed.dropStale
    let settled := fresh.dedentTo fresh.column
    if settled.rest.isEmpty then
      let final ← (settled.dedentTo (-1)).dropKey
      return final.tokens
    else (← settled.readToken).readAll fuel

/-- Whether a character may stand in a YAML text. -/
def isYamlChar (char : Char) : Bool :=
  -- Most controls may not.
  let code := char.toNat
  char == '\t' || char == '\n' || char == '\r' || (0x20 ≤ code && code ≤ 0x7E) || code == 0x85
    || (0xA0 ≤ code && code ≤ 0xFFFD) || 0x10000 ≤ code

/-- A text with each of its line ends written as a line feed. -/
def unifyBreaks : List Char → List Char
  -- A carriage return and the line feed after it end one line.
  | [] => []
  | '\r' :: '\n' :: rest => '\n' :: unifyBreaks rest
  | char :: rest => (if char == '\r' || char == '\u0085' then '\n' else char) :: unifyBreaks rest

/-- The tokens of a YAML text. -/
def yamlTokens? (text : String) : Option (List YamlToken) :=
  -- Each round reads at least one character.
  if text.toList.all isYamlChar then
    let chars := unifyBreaks text.toList
    { rest := chars : YamlScanner }.readAll (chars.length + 1)
  else none

end PhpOutline
