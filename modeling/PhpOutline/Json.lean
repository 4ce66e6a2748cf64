/-! JSON values and their text over several lines. -/

namespace PhpOutline

/-- A JSON value whose numbers are whole and not negative. -/
inductive Json where
  | null
  | bool (value : Bool)
  | number (value : Nat)
  | text (value : String)
  | array (items : List Json)
  /-- Members in the order in which they are written. -/
  | object (members : List (String × Json))

/-- A value that may be absent. -/
def Json.ofOption (encode : α → Json) : Option α → Json
  -- What is absent is null.
  | none => .null
  | some value => encode value

/-- A list of texts. -/
def Json.texts (values : List String) : Json :=
  -- The order is kept.
  .array (values.map .text)

/-- A small number as two hexadecimal digits. -/
def twoHexDigits (value : Nat) : List Char :=
  -- Letters are small.
  [Nat.digitChar (value / 16), Nat.digitChar (value % 16)]

/-- A character as it stands inside a JSON text. -/
def jsonChar (char : Char) : List Char :=
  -- Quotes, backslashes and controls are escaped, all else stands as it is.
  if char == '"' then ['\\', '"']
  else if char == '\\' then ['\\', '\\']
  else if char == '\n' then ['\\', 'n']
  else if char == '\r' then ['\\', 'r']
  else if char == '\t' then ['\\', 't']
  else if char == '\x08' then ['\\', 'b']
  else if char == '\x0c' then ['\\', 'f']
  else if char.toNat < 0x20 then ['\\', 'u', '0', '0'] ++ twoHexDigits char.toNat
  else [char]

/-- A text between quotation marks. -/
def jsonText (text : String) : String :=
  -- Each character is escaped on its own.
  String.ofList ('"' :: text.toList.flatMap jsonChar ++ ['"'])

/-- A line break and the blanks that open a line at a depth. -/
def jsonBreak (depth : Nat) : String :=
  -- Each depth is two blanks further in.
  "\n" ++ String.ofList (List.replicate (2 * depth) ' ')

/-- Pieces between two brackets, each on a line of its own. -/
def jsonBlock (opening closing : String) (depth : Nat) (pieces : List String) : String :=
  -- Without pieces the brackets stand next to each other.
  if pieces.isEmpty then opening ++ closing
  else
    let lines := pieces.map fun piece => jsonBreak (depth + 1) ++ piece
    opening ++ ",".intercalate lines ++ jsonBreak depth ++ closing

mutual

/-- The text of a value that stands at a depth. -/
def Json.render (depth : Nat) : Json → String
  -- Arrays and objects put each item on a line of its own.
  | .null => "null"
  | .bool true => "true"
  | .bool false => "false"
  | .number value => toString value
  | .text value => jsonText value
  | .array items => jsonBlock "[" "]" depth (Json.renderItems (depth + 1) items)
  | .object members => jsonBlock "\x7b" "\x7d" depth (Json.renderMembers (depth + 1) members)

/-- The texts of the items of an array. -/
def Json.renderItems (depth : Nat) : List Json → List String
  -- Items keep their order.
  | [] => []
  | item :: items => item.render depth :: Json.renderItems depth items

/-- The texts of the members of an object. -/
def Json.renderMembers (depth : Nat) : List (String × Json) → List String
  -- A colon and a blank stand between a name and its value.
  | [] => []
  | (name, value) :: members =>
    (jsonText name ++ ": " ++ value.render depth) :: Json.renderMembers depth members

end

end PhpOutline
