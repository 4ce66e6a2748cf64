import PhpOutline.Glob.Basic

/-! The written form of glob patterns. -/

namespace PhpOutline

/-- Why a text is no glob pattern. -/
inductive GlobError where
  | unclosedClass
  /-- A range of characters ends before it starts. -/
  | invalidRange (low high : Char)
  | unopenedAlternatives
  | unclosedAlternatives
  | danglingEscape
deriving DecidableEq, Repr

/-- The message of a cause. -/
def GlobError.message : GlobError → String
  -- Each cause has one wording.
  | .unclosedClass => "unclosed character class; missing ']'"
  | .invalidRange low high => s!"invalid range; '{low}' > '{high}'"
  | .unopenedAlternatives =>
    "unopened alternate group; missing '\x7b' (maybe escape '\x7d' with '[\x7d]'?)"
  | .unclosedAlternatives =>
    "unclosed alternate group; missing '\x7d' (maybe escape '\x7b' with '[\x7b]'?)"
  | .danglingEscape => "dangling '\\'"

/-- What has been read of a character class. -/
structure ClassReading where
  negated : Bool
  /-- The ranges so far, latest first. -/
  ranges : List (Char × Char) := []
  /-- Whether nothing has been read yet. -/
  isFirst : Bool := true
  /-- Whether a hyphen waits for the end of its range. -/
  inRange : Bool := false

/-- The reading with the end of the latest range moved to a character. -/
def ClassReading.extend (reading : ClassReading) (high : Char) : Except GlobError ClassReading :=
  -- The end of a range may be moved more than once.
  match reading.ranges with
  | [] => .ok { reading with ranges := [(high, high)], inRange := false }
  | (low, _) :: ranges =>
    if high < low then .error (.invalidRange low high)
    else .ok { reading with ranges := (low, high) :: ranges, inRange := false }

/-- The reading after one more character, other than the bracket that ends the class. -/
def ClassReading.read (reading : ClassReading) (char : Char) : Except GlobError ClassReading :=
  -- A hyphen between two characters spans a range.
  let next := { reading with isFirst := false }
  if reading.inRange then next.extend char
  else if char == '-' && !reading.isFirst then .ok { next with inRange := true }
  else .ok { next with ranges := (char, char) :: reading.ranges }

/-- The part that a class stands for once it is read. -/
def ClassReading.part (reading : ClassReading) : GlobPart :=
  -- A hyphen at the end stands for itself.
  let ranges := if reading.inRange then ('-', '-') :: reading.ranges else reading.ranges
  .oneOf reading.negated ranges.reverse

/-- A choice between patterns that is still being read. -/
structure OpenChoice where
  /-- The parts before the choice, latest first. -/
  before : List GlobPart
  /-- The branches that are complete, latest first. -/
  branches : List (List GlobPart)

/-- What has been read of a glob pattern. -/
structure GlobReading where
  /-- The parts of the branch that is being read, latest first. -/
  current : List GlobPart := []
  /-- The choices that are open, innermost first. -/
  choices : List OpenChoice := []
  /-- The class that is open. -/
  class? : Option ClassReading := none
  /-- The character read last. -/
  previous? : Option Char := none

/-- The reading with parts added that end in a character. -/
def GlobReading.push (reading : GlobReading) (parts : List GlobPart) (last : Char) :
    GlobReading :=
  -- The parts are given in order.
  { reading with current := parts.reverse ++ reading.current, previous? := some last }

/-- The reading after the brace that opens a choice. -/
def GlobReading.openChoice (reading : GlobReading) : GlobReading :=
  -- The first branch starts empty.
  { reading with
    current := [], choices := ⟨reading.current, []⟩ :: reading.choices, previous? := some '{' }

/-- The reading after the brace that closes a choice. -/
def GlobReading.closeChoice (reading : GlobReading) : Except GlobError GlobReading :=
  -- The branch that is being read is the last one.
  match reading.choices with
  | [] => .error .unopenedAlternatives
  | choice :: choices =>
    let branches := (reading.current.reverse :: choice.branches).reverse
    .ok { reading with
      current := .alternatives branches :: choice.before, choices, previous? := some '}' }

/-- The reading after a comma. -/
def GlobReading.comma (reading : GlobReading) : GlobReading :=
  -- Outside a choice a comma stands for itself.
  match reading.choices with
  | [] => reading.push [.literal ','] ','
  | choice :: choices =>
    { reading with
      current := []
      choices := { choice with branches := reading.current.reverse :: choice.branches } :: choices
      previous? := some ',' }

/-- What a double star with a separator or an end around it stands for. -/
inductive DoubleStar where
  /-- Two stars like any others. -/
  | plain
  /-- Directories at the front of a branch. -/
  | leading
  /-- Everything below the directory in front. -/
  | trailing
  /-- Directories between two others. -/
  | inner

/-- What a double star stands for, given the character after it. -/
def GlobReading.doubleStar (reading : GlobReading) (next? : Option Char) : DoubleStar :=
  -- It has to be a whole component, where the ends of a branch count as ends of a component.
  let nested := !reading.choices.isEmpty
  if reading.current.isEmpty then
    if next?.all (· == '/') then .leading else .plain
  else
    let starts := reading.previous? == some '/'
      || nested && (reading.previous? == some ',' || reading.previous? == some '{')
    if !starts then .plain
    else
      match next? with
      | none => .trailing
      | some '/' => .inner
      | some next => if nested && (next == ',' || next == '}') then .trailing else .plain

/-- The reading with a double star in place of the separator in front of it. -/
def GlobReading.replaceSeparator (reading : GlobReading) (part : GlobPart) (last : Char) :
    GlobReading :=
  -- Directories at the front and a path at the end already take what follows.
  let kept := match reading.current with
    | .leadingDirectories :: _ => reading.current
    | .trailingPath :: _ => reading.current
    | _ => part :: reading.current.tail
  { reading with current := kept, previous? := some last }

/-- Reads the rest of a glob pattern. -/
def GlobReading.readAll (reading : GlobReading) : List Char → Except GlobError GlobReading
  -- An open class takes every character up to its closing bracket.
  | [] => if reading.class?.isSome then .error .unclosedClass else .ok reading
  | char :: rest =>
    match reading.class? with
    | some opened =>
      if char == ']' && !opened.isFirst then
        GlobReading.readAll ({ reading with class? := none }.push [opened.part] ']') rest
      else do
        GlobReading.readAll { reading with class? := some (← opened.read char) } rest
    | none =>
      match char, rest with
      | '?', rest => GlobReading.readAll (reading.push [.anyByte] '?') rest
      | '*', '*' :: rest =>
        match reading.doubleStar rest.head?, rest with
        | .leading, _ :: rest => GlobReading.readAll (reading.push [.leadingDirectories] '/') rest
        | .leading, [] => .ok (reading.push [.leadingDirectories] '*')
        | .trailing, rest => GlobReading.readAll (reading.replaceSeparator .trailingPath '*') rest
        | .inner, _ :: rest =>
          GlobReading.readAll (reading.replaceSeparator .innerDirectories '/') rest
        | _, rest => GlobReading.readAll (reading.push [.anyBytes, .anyBytes] '*') rest
      | '*', rest => GlobReading.readAll (reading.push [.anyBytes] '*') rest
      | '[', '!' :: rest =>
        GlobReading.readAll { reading with class? := some { negated := true } } rest
      | '[', '^' :: rest =>
        GlobReading.readAll { reading with class? := some { negated := true } } rest
      | '[', rest => GlobReading.readAll { reading with class? := some { negated := false } } rest
      | '{', rest => GlobReading.readAll reading.openChoice rest
      | '}', rest => do GlobReading.readAll (← reading.closeChoice) rest
      | ',', rest => GlobReading.readAll reading.comma rest
      | '\\', escaped :: rest => GlobReading.readAll (reading.push [.literal escaped] escaped) rest
      | '\\', [] => .error .danglingEscape
      | char, rest => GlobReading.readAll (reading.push [.literal char] char) rest

/-- The glob pattern that a text writes. -/
def Glob.parse (text : String) : Except GlobError Glob := do
  -- Every choice has to be closed at the end.
  let reading ← GlobReading.readAll {} text.toList
  if reading.choices.isEmpty then .ok ⟨reading.current.reverse⟩ else .error .unclosedAlternatives

end PhpOutline
