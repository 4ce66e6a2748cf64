import PhpOutline.Yaml.Token

/-! Scalars of a YAML text: plain, quoted and in blocks, with their lines folded. -/

namespace PhpOutline

/-- The white space between two pieces of a scalar. -/
structure Gap where
  /-- Blanks on the line of the first piece. -/
  blanks : List Char := []
  /-- The first line break. -/
  firstBreak : List Char := []
  /-- The line breaks after the first one. -/
  moreBreaks : List Char := []
  /-- Whether a line has ended. -/
  hasBreak : Bool := false

/-- The text that a gap leaves in a scalar. -/
def Gap.text (gap : Gap) : List Char :=
  -- A single line feed becomes a blank, and of several the first is dropped.
  if !gap.hasBreak then gap.blanks
  else if gap.firstBreak == ['\n'] then
    if gap.moreBreaks.isEmpty then [' '] else gap.moreBreaks
  else gap.firstBreak ++ gap.moreBreaks

/-- Reads the white space after a piece of a scalar. -/
def YamlScanner.readGap (scanner : YamlScanner) (gap : Gap) (tabColumn : Nat) :
    Nat → Option (Gap × YamlScanner)
  -- A tab may not indent a line less deep than a column.
  | 0 => some (gap, scanner)
  | fuel + 1 =>
    match scanner.rest with
    | [] => some (gap, scanner)
    | char :: _ =>
      if isYamlBlank char then
        if gap.hasBreak && scanner.column < tabColumn && char == '\t' then none
        else
          let blanks := if gap.hasBreak then gap.blanks else gap.blanks ++ [char]
          scanner.skip.readGap { gap with blanks } tabColumn fuel
      else if isYamlBreak char then
        if gap.hasBreak then
          scanner.skip.readGap { gap with moreBreaks := gap.moreBreaks ++ [char] } tabColumn fuel
        else
          let next := { gap with blanks := [], firstBreak := [char], hasBreak := true }
          scanner.skip.readGap next tabColumn fuel
      else some (gap, scanner)

/-- Whether a character is a bracket, a brace or a comma. -/
def isFlowIndicator (char : Char) : Bool :=
  -- These end a plain scalar between brackets.
  char == ',' || char == '[' || char == ']' || char == '{' || char == '}'

/-- The next piece of a plain scalar, up to white space or an indicator. -/
def plainPiece (inFlow : Bool) : List Char → Option (List Char)
  -- A colon ends the scalar before a blank, and between brackets must not stand before another.
  | [] => some []
  | char :: rest =>
    if isYamlBlank char || isYamlBreak char then some []
    else if inFlow && char == ':'
        && rest.head?.any (fun next => isFlowIndicator next || next == '?') then none
    else if char == ':' && startsBlank rest then some []
    else if inFlow && isFlowIndicator char then some []
    else (plainPiece inFlow rest).map (char :: ·)

/-- Reads a plain scalar of which some text has been read. -/
def YamlScanner.readPlain (scanner : YamlScanner) (text : List Char) (gap : Gap) :
    Nat → Option (List Char × Gap × YamlScanner)
  -- A comment, a marker or a line that is not indented ends the scalar.
  | 0 => none
  | fuel + 1 => do
    if scanner.atDocumentMarker || scanner.rest.head? == some '#' then
      return (text, gap, scanner)
    let piece ← plainPiece scanner.inFlow scanner.rest
    let joined := if piece.isEmpty then text else text ++ gap.text ++ piece
    let gapLeft := if piece.isEmpty then gap else {}
    let after := scanner.advance piece.length
    if after.rest.isEmpty || !startsBlank after.rest then return (joined, gapLeft, after)
    let depth := (scanner.indent + 1).toNat
    let (nextGap, next) ← after.readGap gapLeft depth (after.rest.length + 1)
    if !scanner.inFlow && next.column < depth then return (joined, nextGap, next)
    next.readPlain joined nextGap fuel

/-- The value of a hexadecimal digit. -/
def hexDigit? (char : Char) : Option Nat :=
  -- Letters may have either case.
  if char.isDigit then some (char.toNat - '0'.toNat)
  else if 'a' ≤ char && char ≤ 'f' then some (char.toNat - 'a'.toNat + 10)
  else if 'A' ≤ char && char ≤ 'F' then some (char.toNat - 'A'.toNat + 10)
  else none

/-- The value of a list of hexadecimal digits. -/
def hexValue? (digits : List Char) : Option Nat :=
  -- Any other character spoils the number.
  digits.foldlM (fun value char => (hexDigit? char).map fun digit => value * 16 + digit) 0

/-- The character with a number in hexadecimal digits. -/
def charOfHex? (digits : List Char) (width : Nat) : Option Char := do
  -- Half characters and numbers beyond the last character are refused.
  let value ← if digits.length == width then hexValue? digits else none
  if 0xD800 ≤ value && value ≤ 0xDFFF || 0x10FFFF < value then none else some (Char.ofNat value)

/-- The characters that a letter after a backslash stands for. -/
def escapeTable : List (Char × Char) :=
  -- Each letter has one meaning.
  [('0', '\x00'), ('a', '\x07'), ('b', '\x08'), ('t', '\t'), ('\t', '\t'), ('n', '\n'),
   ('v', '\x0b'), ('f', '\x0c'), ('r', '\r'), ('e', '\x1b'), (' ', ' '), ('"', '"'), ('/', '/'),
   ('\\', '\\'), ('N', '\u0085'), ('_', '\u00a0'), ('L', '\u2028'), ('P', '\u2029')]

/-- The character that an escape stands for, and the number of characters after its backslash. -/
def readEscape? : List Char → Option (Char × Nat)
  -- Three letters announce a number.
  | 'x' :: rest => (charOfHex? (rest.take 2) 2).map fun char => (char, 3)
  | 'u' :: rest => (charOfHex? (rest.take 4) 4).map fun char => (char, 5)
  | 'U' :: rest => (charOfHex? (rest.take 8) 8).map fun char => (char, 9)
  | letter :: _ => (escapeTable.lookup letter).map fun char => (char, 1)
  | [] => none

/-- How a piece of a quoted scalar ended. -/
inductive PieceEnd where
  /-- At the closing quote. -/
  | closed
  /-- At white space or at the end of the text. -/
  | blank
  /-- At a line break that a backslash takes away. -/
  | joined
deriving DecidableEq

/-- Reads a piece of a quoted scalar, up to white space or the closing quote. -/
def YamlScanner.readQuotedPiece (scanner : YamlScanner) (isSingle : Bool) (piece : List Char) :
    Nat → Option (List Char × PieceEnd × YamlScanner)
  -- A quote is written twice between single quotes, and behind a backslash between double ones.
  | 0 => none
  | fuel + 1 =>
    match scanner.rest with
    | [] => some (piece, .blank, scanner)
    | char :: rest =>
      if isYamlBlank char || isYamlBreak char then some (piece, .blank, scanner)
      else if isSingle && char == '\'' && rest.head? == some '\'' then
        (scanner.advance 2).readQuotedPiece isSingle (piece ++ ['\'']) fuel
      else if char == (if isSingle then '\'' else '"') then some (piece, .closed, scanner)
      else if !isSingle && char == '\\' then
        if rest.head?.any isYamlBreak then some (piece, .joined, scanner.advance 2)
        else
          match readEscape? rest with
          | none => none
          | some (escaped, width) =>
            (scanner.advance (width + 1)).readQuotedPiece isSingle (piece ++ [escaped]) fuel
      else scanner.skip.readQuotedPiece isSingle (piece ++ [char]) fuel

/-- Reads a quoted scalar of which some text has been read, up to its closing quote. -/
def YamlScanner.readQuoted (scanner : YamlScanner) (isSingle : Bool) (text : List Char) :
    Nat → Option (List Char × YamlScanner)
  -- A scalar that meets a marker or the end of the text is broken.
  | 0 => none
  | fuel + 1 => do
    if scanner.atDocumentMarker || scanner.rest.isEmpty then none
    let (piece, ending, after) ←
      scanner.readQuotedPiece isSingle [] (scanner.rest.length + 1)
    match ending with
    | .closed => return (text ++ piece, after.skip)
    | _ =>
      let gap : Gap := { hasBreak := ending == .joined }
      let (filled, next) ← after.readGap gap 0 (after.rest.length + 1)
      next.readQuoted isSingle (text ++ piece ++ filled.text) fuel

/-- How the line breaks at the end of a block scalar are treated. -/
inductive Chomping where
  | strip
  | clip
  | keep
deriving DecidableEq

/-- The chomping that an indicator asks for. -/
def Chomping.ofChar? (char : Char) : Option Chomping :=
  -- Without an indicator one line break stays.
  if char == '+' then some .keep else if char == '-' then some .strip else none

/-- Reads the indicators of a block scalar: its chomping and its depth. -/
def YamlScanner.readHeader (scanner : YamlScanner) :
    Option (Chomping × Option Nat × YamlScanner) := do
  -- The two may come in either order, and a depth of zero is refused.
  let digit? := fun (place : YamlScanner) =>
    (place.rest.head?.filter Char.isDigit).map fun char => char.toNat - '0'.toNat
  let chomping? := fun (place : YamlScanner) => place.rest.head?.bind Chomping.ofChar?
  match chomping? scanner with
  | some chomping =>
    let next := scanner.skip
    match digit? next with
    | some 0 => none
    | some depth => return (chomping, some depth, next.skip)
    | none => return (chomping, none, next)
  | none =>
    match digit? scanner with
    | some 0 => none
    | some depth =>
      let next := scanner.skip
      match chomping? next with
      | some chomping => return (chomping, some depth, next.skip)
      | none => return (.clip, some depth, next)
    | none => return (.clip, none, scanner)

/-- Reads the empty lines of a block scalar, and its greatest indentation so far. -/
def YamlScanner.readEmptyLines (scanner : YamlScanner) (depth? : Option Nat)
    (breaks : List Char) (deepest : Nat) : Nat → Option (List Char × Nat × YamlScanner)
  -- A tab may not indent a line of the scalar.
  | 0 => none
  | fuel + 1 =>
    let room := match depth? with
      | some depth => depth - scanner.column
      | none => scanner.rest.length
    let spaces := ((scanner.rest.take room).takeWhile (· == ' ')).length
    let after := scanner.advance spaces
    let deepest := max deepest after.column
    let shallow := depth?.all fun depth => after.column < depth
    match after.rest with
    | char :: _ =>
      if shallow && char == '\t' then none
      else if isYamlBreak char then
        after.skip.readEmptyLines depth? (breaks ++ [char]) deepest fuel
      else some (breaks, deepest, after)
    | [] => some (breaks, deepest, after)

/-- What has been read of a block scalar. -/
structure BlockText where
  text : List Char := []
  /-- The line break after the latest line. -/
  lastBreak : List Char := []
  /-- The line breaks after that one. -/
  moreBreaks : List Char := []
  /-- Whether the latest line starts with a blank. -/
  isIndented : Bool := false

/-- The line breaks between the latest line of a block scalar and the next one. -/
def BlockText.separator (block : BlockText) (isFolded nextIndented : Bool) : List Char :=
  -- Lines that start with a blank are never folded.
  if isFolded && block.lastBreak == ['\n'] && !block.isIndented && !nextIndented then
    if block.moreBreaks.isEmpty then [' '] else block.moreBreaks
  else block.lastBreak ++ block.moreBreaks

/-- Reads the lines of a block scalar that is indented by a depth. -/
def YamlScanner.readBlockLines (scanner : YamlScanner) (isFolded : Bool) (depth : Nat)
    (block : BlockText) : Nat → Option (BlockText × YamlScanner)
  -- The first line that is not indented as deep ends the scalar.
  | 0 => none
  | fuel + 1 =>
    if scanner.column != depth || scanner.rest.isEmpty then some (block, scanner)
    else do
      let indented := scanner.rest.head?.any isYamlBlank
      let (line, after) := scanner.takeWhile fun char => !isYamlBreak char
      let text := block.text ++ block.separator isFolded indented ++ line
      let lastBreak := after.rest.take 1
      let (moreBreaks, _, next) ←
        after.skip.readEmptyLines (some depth) [] 0 (after.rest.length + 1)
      let read : BlockText := { text, lastBreak, moreBreaks, isIndented := indented }
      next.readBlockLines isFolded depth read fuel

/-- Reads a block scalar from the character after its mark. -/
def YamlScanner.readBlock (scanner : YamlScanner) (isFolded : Bool) :
    Option (List Char × YamlScanner) := do
  -- Only a comment may share the line of the mark.
  let (chomping, depth?, header) ← scanner.readHeader
  let blanks := header.skipWhile isYamlBlank
  let comment := if blanks.rest.head? == some '#' then
      blanks.skipWhile fun char => !isYamlBreak char
    else blanks
  if !startsBreak comment.rest then none
  let start := comment.skip
  let fixed? := depth?.map fun depth =>
    if 0 ≤ scanner.indent then scanner.indent.toNat + depth else depth
  let (breaks, deepest, first) ← start.readEmptyLines fixed? [] 0 (start.rest.length + 1)
  let depth := fixed?.getD (max (max deepest (scanner.indent + 1).toNat) 1)
  let (block, after) ←
    first.readBlockLines isFolded depth { moreBreaks := breaks } (first.rest.length + 1)
  let ending := match chomping with
    | .strip => []
    | .clip => block.lastBreak
    | .keep => block.lastBreak ++ block.moreBreaks
  return (block.text ++ ending, after)

end PhpOutline
