/-! Sets of characters, white space at the ends of a text, and lists cut at delimiters. -/

namespace PhpOutline

/-- Whether the code point of a character lies in one of the inclusive ranges. -/
def inRanges (ranges : List (Nat × Nat)) (char : Char) : Bool :=
  -- The tables are short enough to be searched from the front.
  ranges.any fun range => range.1 ≤ char.toNat && char.toNat ≤ range.2

/-- Code points that have the property White_Space. -/
def blankRanges : List (Nat × Nat) :=
  -- Ranges are inclusive at both ends, disjoint and increasing.
  [(0x9, 0xD), (0x20, 0x20), (0x85, 0x85), (0xA0, 0xA0), (0x1680, 0x1680), (0x2000, 0x200A),
   (0x2028, 0x2029), (0x202F, 0x202F), (0x205F, 0x205F), (0x3000, 0x3000)]

/-- Whether a character is white space. -/
def isBlank (char : Char) : Bool :=
  -- The set is closed and small, so ASCII needs no case of its own.
  inRanges blankRanges char

/-- A list of characters without the white space at its front. -/
def trimFront (chars : List Char) : List Char :=
  -- Only the leading run goes, and blanks further in stay.
  chars.dropWhile isBlank

/-- A list of characters without the white space at either end. -/
def trimEnds (chars : List Char) : List Char :=
  -- Trimming the reversed list at its front trims the list at its back.
  (trimFront (trimFront chars).reverse).reverse

/-- The groups between the delimiters, of which at most a limit of the first ones cut. -/
def splitAtMost (isDelimiter : α → Bool) : Option Nat → List α → List (List α)
  -- A delimiter that cuts is dropped, and empty groups stay.
  | _, [] => [[]]
  | limit, item :: rest =>
    if isDelimiter item && limit != some 0 then
      [] :: splitAtMost isDelimiter (limit.map (· - 1)) rest
    else
      match splitAtMost isDelimiter limit rest with
      | [] => [[item]]
      | group :: groups => (item :: group) :: groups

/-- The groups between the delimiters. -/
def splitAt (isDelimiter : α → Bool) (items : List α) : List (List α) :=
  -- Without a limit every delimiter cuts.
  splitAtMost isDelimiter none items

end PhpOutline
