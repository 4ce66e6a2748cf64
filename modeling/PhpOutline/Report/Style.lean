/-! Text with padding and colours for a terminal. -/

namespace PhpOutline

/-- The ways in which text can stand out. -/
inductive Accent where
  | bold
  | dimmed
  | red
  | green
  | yellow
  | blue
  | cyan
deriving DecidableEq, Repr

/-- The number by which a terminal knows an accent. -/
def Accent.code : Accent → Nat
  -- Colours have numbers from thirty on.
  | .bold => 1
  | .dimmed => 2
  | .red => 31
  | .green => 32
  | .yellow => 33
  | .blue => 34
  | .cyan => 36

/-- The sequence that ends every accent. -/
def plainSequence : String :=
  -- Zero stands for no accent.
  "\x1b[0m"

/-- The sequence that starts some accents. -/
def accentSequence (accents : List Accent) : String :=
  -- The numbers come in the order of the accents.
  "\x1b[" ++ ";".intercalate (accents.map fun accent => toString accent.code) ++ "m"

/-- A text in which accents start again wherever they end. -/
def restartAccents (start : String) : List Char → List Char
  -- The text itself may hold the sequence that ends accents.
  | [] => []
  | '\x1b' :: '[' :: '0' :: 'm' :: rest =>
    plainSequence.toList ++ start.toList ++ restartAccents start rest
  | char :: rest => char :: restartAccents start rest

/-- A text with accents, if colours are wanted. -/
def accented (colored : Bool) (accents : List Accent) (text : String) : String :=
  -- Without colours the text stands as it is.
  if colored then
    let start := accentSequence accents
    start ++ String.ofList (restartAccents start text.toList) ++ plainSequence
  else text

/-- A text filled up with blanks behind it. -/
def padRight (width : Nat) (text : String) : String :=
  -- A longer text is not cut.
  text ++ String.ofList (List.replicate (width - text.length) ' ')

/-- A text filled up with blanks in front of it. -/
def padLeft (width : Nat) (text : String) : String :=
  -- A longer text is not cut.
  String.ofList (List.replicate (width - text.length) ' ') ++ text

end PhpOutline
