/-! Glob patterns for paths, and the texts that they match byte by byte. -/

namespace PhpOutline

/-- One part of a glob pattern. -/
inductive GlobPart where
  | literal (char : Char)
  /-- Any single byte. -/
  | anyByte
  /-- Any bytes, separators included. -/
  | anyBytes
  /-- Any directories at the front, or none. -/
  | leadingDirectories
  /-- A separator and everything after it. -/
  | trailingPath
  /-- A separator, or two with anything between them. -/
  | innerDirectories
  /-- One byte inside the ranges, or outside them if they are negated. -/
  | oneOf (negated : Bool) (ranges : List (Char × Char))
  /-- One of several patterns. -/
  | alternatives (branches : List (List GlobPart))
deriving Inhabited

/-- The bytes of a text. -/
def bytesOf (text : String) : List UInt8 :=
  -- Characters outside ASCII take several bytes.
  text.toUTF8.toList

/-- The bytes of a character. -/
def charBytes (char : Char) : List UInt8 :=
  -- The first byte is greater than every later one.
  bytesOf (String.singleton char)

/-- The byte between the parts of a path. -/
def separatorByte : UInt8 :=
  -- The separator is a slash.
  0x2F

/-- Everything that can be left after some bytes are taken off the front. -/
def remainders : List UInt8 → List (List UInt8)
  -- Nothing may be taken, and everything may.
  | [] => [[]]
  | byte :: rest => (byte :: rest) :: remainders rest

/-- Everything that can follow a separator. -/
def afterSeparators : List UInt8 → List (List UInt8)
  -- Each separator gives one remainder.
  | [] => []
  | byte :: rest =>
    if byte == separatorByte then rest :: afterSeparators rest else afterSeparators rest

/-- What is left of the bytes when a front part is taken off. -/
def stripFront (front bytes : List UInt8) : Option (List UInt8) :=
  -- The front part has to be there in full.
  if front.isPrefixOf bytes then some (bytes.drop front.length) else none

/-- The ranges of bytes that a range of characters stands for. -/
def byteRanges (range : Char × Char) : List (UInt8 × UInt8) :=
  -- Only the byte at the end of the first and the one at the front of the last span a range.
  let low := charBytes range.1
  let high := charBytes range.2
  let single := fun byte => (byte, byte)
  if range.1 == range.2 then low.map single
  else
    low.dropLast.map single ++ [(low.getLastD 0, high.headD 0)] ++ high.tail.map single

/-- Whether a byte lies in one of the ranges of characters. -/
def inByteRanges (ranges : List (Char × Char)) (byte : UInt8) : Bool :=
  -- A character outside ASCII is never met as a whole.
  (ranges.flatMap byteRanges).any fun range => range.1 ≤ byte && byte ≤ range.2

mutual

/-- Whether a part stands for no pattern at all. -/
def GlobPart.isVoid : GlobPart → Bool
  -- A choice between empty patterns is empty.
  | .alternatives branches => GlobPart.allVoid branches
  | _ => false

/-- Whether every part of a pattern is void. -/
def GlobPart.isVoidPattern : List GlobPart → Bool
  -- The empty pattern is void.
  | [] => true
  | part :: parts => part.isVoid && GlobPart.isVoidPattern parts

/-- Whether every one of some patterns is void. -/
def GlobPart.allVoid : List (List GlobPart) → Bool
  -- No patterns at all are void too.
  | [] => true
  | branch :: branches => GlobPart.isVoidPattern branch && GlobPart.allVoid branches

end

mutual

/-- What can be left of the bytes after a part has taken its share. -/
def GlobPart.rests : GlobPart → List UInt8 → List (List UInt8)
  -- A part that does not fit leaves nothing to go on with.
  | .literal char, bytes => (stripFront (charBytes char) bytes).toList
  | .anyByte, bytes => if bytes.isEmpty then [] else [bytes.tail]
  | .anyBytes, bytes => remainders bytes
  | .leadingDirectories, bytes => bytes :: afterSeparators bytes
  | .trailingPath, bytes =>
    match stripFront [separatorByte] bytes with
    | some rest => remainders rest
    | none => []
  | .innerDirectories, bytes =>
    match stripFront [separatorByte] bytes with
    | some rest => rest :: afterSeparators rest
    | none => []
  | .oneOf negated ranges, bytes =>
    match bytes with
    | [] => []
    | byte :: rest => if inByteRanges ranges byte != negated then [rest] else []
  | .alternatives branches, bytes =>
    if GlobPart.allVoid branches then [bytes] else GlobPart.branchRests branches bytes

/-- What can be left after all parts of a pattern have taken their share. -/
def GlobPart.patternRests : List GlobPart → List UInt8 → List (List UInt8)
  -- Equal remainders are kept once.
  | [], bytes => [bytes]
  | part :: parts, bytes =>
    ((part.rests bytes).eraseDups.flatMap fun rest => GlobPart.patternRests parts rest).eraseDups

/-- What can be left after one of several patterns has taken its share. -/
def GlobPart.branchRests : List (List GlobPart) → List UInt8 → List (List UInt8)
  -- A void pattern is no choice.
  | [], _ => []
  | branch :: branches, bytes =>
    let rests := if GlobPart.isVoidPattern branch then [] else GlobPart.patternRests branch bytes
    rests ++ GlobPart.branchRests branches bytes

end

/-- A glob pattern. -/
structure Glob where
  parts : List GlobPart

/-- Whether a pattern matches the whole of a text. -/
def Glob.accepts (glob : Glob) (text : String) : Bool :=
  -- Leading directories alone match everything.
  match glob.parts with
  | [.leadingDirectories] => true
  | parts => (GlobPart.patternRests parts (bytesOf text)).contains []

end PhpOutline
