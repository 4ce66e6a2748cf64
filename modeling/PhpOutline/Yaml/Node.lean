import PhpOutline.Yaml.Scan

/-! Nodes: the values that a YAML text writes. -/

namespace PhpOutline

/-- A value of a YAML text. -/
inductive YamlNode where
  | scalar (style : ScalarStyle) (tag? : Option String) (text : String)
  | sequence (items : List YamlNode)
  | mapping (pairs : List (YamlNode × YamlNode))
  /-- A reference to the named node in a slot. -/
  | alias (slot : Nat)
deriving Inhabited

/-- The scalar that stands where nothing but a tag is written, if even that. -/
def YamlNode.bare (tag? : Option String) : YamlNode :=
  -- It is plain, so without a tag it may stand for null.
  .scalar .plain tag? ""

/-- The scalar that stands where nothing is written. -/
def YamlNode.empty : YamlNode :=
  -- Nothing at all has no tag.
  .bare none

/-- What the nodes read so far have defined. -/
structure YamlScope where
  /-- The slot of each name. -/
  slots : List (String × Nat) := []
  /-- The rank of the named node in each slot, latest first. -/
  owners : List (Nat × Nat) := []
  /-- The named nodes that are complete, by their ranks. -/
  nodes : List (Nat × YamlNode) := []
  /-- The handles of tags and what they stand for. -/
  handles : List (String × String) := []

/-- The rank of the next named node, in the order in which such nodes start. -/
def YamlScope.rank (scope : YamlScope) : Nat :=
  -- Each of them took a slot when it started.
  scope.owners.length

/-- The scope in which a node with a name has started. -/
def YamlScope.start (scope : YamlScope) (name : String) : YamlScope :=
  -- Slots are counted by names, so after a name is given again the next new one shares its slot.
  let slot := scope.slots.length
  { scope with
    slots := (name, slot) :: scope.slots.filter fun entry => entry.1 != name
    owners := (slot, scope.rank) :: scope.owners }

/-- The scope in which the named node of a rank is complete. -/
def YamlScope.complete (scope : YamlScope) (rank : Nat) (node : YamlNode) : YamlScope :=
  -- Ranks are never given twice.
  { scope with nodes := (rank, node) :: scope.nodes }

/-- The node in a slot. -/
def YamlScope.get? (scope : YamlScope) (slot : Nat) : Option YamlNode := do
  -- The node that started last has the slot, also for references in front of it.
  scope.nodes.lookup (← scope.owners.lookup slot)

/-- The node that a node stands for. -/
def YamlScope.resolve (scope : YamlScope) : YamlNode → YamlNode
  -- No reference has a name, so none leads to another.
  | .alias slot => (scope.get? slot).getD .empty
  | node => node

/-- The handles that need no directive. -/
def defaultHandles : List (String × String) :=
  -- A directive may give them another meaning.
  [("!", "!"), ("!!", "tag:yaml.org,2002:")]

/-- The full form of a tag. -/
def YamlScope.tag? (scope : YamlScope) (handle suffix : String) : Option String :=
  -- A tag without a handle is complete.
  if handle.isEmpty then some suffix
  else ((scope.handles ++ defaultHandles).lookup handle).map (· ++ suffix)

/-- What stands in front of a node. -/
structure NodeProperties where
  anchor? : Option String := none
  tag? : Option (String × String) := none

/-- Reads the properties of a node, of each sort at most one. -/
def readProperties : List YamlToken → NodeProperties × List YamlToken
  -- The two may come in either order.
  | .anchor name :: .tag handle suffix :: rest => (⟨some name, some (handle, suffix)⟩, rest)
  | .tag handle suffix :: .anchor name :: rest => (⟨some name, some (handle, suffix)⟩, rest)
  | .anchor name :: rest => (⟨some name, none⟩, rest)
  | .tag handle suffix :: rest => (⟨none, some (handle, suffix)⟩, rest)
  | tokens => ({}, tokens)

/-- What is left after a node is read. -/
structure NodeReading where
  node : YamlNode
  rest : List YamlToken
  scope : YamlScope

/-- What is left after the items of a collection are read. -/
structure ItemsReading (α : Type) where
  items : List α
  rest : List YamlToken
  scope : YamlScope

/-- The reading of nothing. -/
def readNothing (rest : List YamlToken) (scope : YamlScope) : Option NodeReading :=
  -- The tokens stay as they are.
  some ⟨.empty, rest, scope⟩

/-- The reading of properties that nothing follows. -/
def readBare (hasProperties : Bool) (tag? : Option String) (rest : List YamlToken)
    (scope : YamlScope) : Option NodeReading :=
  -- Properties alone make a node, and nothing at all does not.
  if hasProperties then some ⟨.bare tag?, rest, scope⟩ else none

/-- Whether the next token is one of some tokens. -/
def nextIsOneOf (ends : List YamlToken) (tokens : List YamlToken) : Bool :=
  -- The end of the tokens is none of them.
  tokens.head?.any ends.contains

mutual

/-- Reads a node, where blocks or unindented sequences may be allowed. -/
def readNode (isBlock unindented : Bool) (scope : YamlScope) (tokens : List YamlToken) :
    Nat → Option NodeReading
  -- An alias needs a name that has been given.
  | 0 => none
  | fuel + 1 =>
    match tokens with
    | .alias name :: rest => do
      let slot ← scope.slots.lookup name
      some ⟨.alias slot, rest, scope⟩
    | _ => do
      let (properties, content) := readProperties tokens
      let tag? ← match properties.tag? with
        | none => some none
        | some (handle, suffix) => (scope.tag? handle suffix).map some
      let inner := match properties.anchor? with
        | none => scope
        | some name => scope.start name
      let hasProperties := properties.anchor?.isSome || properties.tag?.isSome
      let reading ← readContent isBlock unindented hasProperties tag? inner content fuel
      match properties.anchor? with
      | none => some reading
      | some _ => some { reading with scope := reading.scope.complete scope.rank reading.node }

/-- Reads what follows the properties of a node. -/
def readContent (isBlock unindented hasProperties : Bool) (tag? : Option String)
    (scope : YamlScope) (tokens : List YamlToken) : Nat → Option NodeReading
  -- A block where none is allowed belongs to another node.
  | 0 => none
  | fuel + 1 =>
    match tokens with
    | .scalar style text :: rest => some ⟨.scalar style tag? text, rest, scope⟩
    | .flowSequenceStart :: rest => do
      let reading ← readFlowItems true scope rest fuel
      some ⟨.sequence reading.items, reading.rest, reading.scope⟩
    | .flowMappingStart :: rest => do
      let reading ← readFlowPairs true scope rest fuel
      some ⟨.mapping reading.items, reading.rest, reading.scope⟩
    | .blockEntry :: _ =>
      if unindented then do
        let reading ← readUnindented scope tokens fuel
        some ⟨.sequence reading.items, reading.rest, reading.scope⟩
      else readBare hasProperties tag? tokens scope
    | .blockSequenceStart :: rest =>
      if isBlock then do
        let reading ← readBlockItems scope rest fuel
        some ⟨.sequence reading.items, reading.rest, reading.scope⟩
      else readBare hasProperties tag? tokens scope
    | .blockMappingStart :: rest =>
      if isBlock then do
        let reading ← readBlockPairs scope rest fuel
        some ⟨.mapping reading.items, reading.rest, reading.scope⟩
      else readBare hasProperties tag? tokens scope
    | _ => readBare hasProperties tag? tokens scope

/-- Reads the entries of a block sequence up to its end. -/
def readBlockItems (scope : YamlScope) (tokens : List YamlToken) :
    Nat → Option (ItemsReading YamlNode)
  -- Only hyphens may start entries.
  | 0 => none
  | fuel + 1 =>
    match tokens with
    | .blockEntry :: rest => do
      let item ← if nextIsOneOf [.blockEntry, .blockEnd] rest then readNothing rest scope
        else readNode true false scope rest fuel
      let others ← readBlockItems item.scope item.rest fuel
      some { others with items := item.node :: others.items }
    | .blockEnd :: rest => some ⟨[], rest, scope⟩
    | _ => none

/-- Reads the entries of a sequence that is indented like the mapping around it. -/
def readUnindented (scope : YamlScope) (tokens : List YamlToken) :
    Nat → Option (ItemsReading YamlNode)
  -- The first token that is no hyphen ends the sequence.
  | 0 => none
  | fuel + 1 =>
    match tokens with
    | .blockEntry :: rest => do
      let item ← if nextIsOneOf [.blockEntry, .key, .value, .blockEnd] rest then
          readNothing rest scope
        else readNode true false scope rest fuel
      let others ← readUnindented item.scope item.rest fuel
      some { others with items := item.node :: others.items }
    | _ => some ⟨[], tokens, scope⟩

/-- Reads the pairs of a block mapping up to its end. -/
def readBlockPairs (scope : YamlScope) (tokens : List YamlToken) :
    Nat → Option (ItemsReading (YamlNode × YamlNode))
  -- Only keys start pairs, and what a pair lacks is empty.
  | 0 => none
  | fuel + 1 =>
    match tokens with
    | .blockEnd :: rest => some ⟨[], rest, scope⟩
    | .key :: rest => do
      let key ← if nextIsOneOf [.key, .value, .blockEnd] rest then readNothing rest scope
        else readNode true true scope rest fuel
      let value ← readBlockValue key.scope key.rest fuel
      let others ← readBlockPairs value.scope value.rest fuel
      some { others with items := (key.node, value.node) :: others.items }
    | _ => none

/-- Reads the value of a pair in a block mapping. -/
def readBlockValue (scope : YamlScope) (tokens : List YamlToken) : Nat → Option NodeReading
  -- Without a colon the value is missing.
  | 0 => none
  | fuel + 1 =>
    match tokens with
    | .value :: rest =>
      if nextIsOneOf [.key, .value, .blockEnd] rest then readNothing rest scope
      else readNode true true scope rest fuel
    | _ => readNothing tokens scope

/-- Reads the items of a sequence in brackets up to its end. -/
def readFlowItems (isFirst : Bool) (scope : YamlScope) (tokens : List YamlToken) :
    Nat → Option (ItemsReading YamlNode)
  -- A comma stands between two items, and may follow the last one.
  | 0 => none
  | fuel + 1 =>
    match tokens with
    | .flowSequenceEnd :: rest => some ⟨[], rest, scope⟩
    | _ =>
      let start? := if isFirst then some tokens
        else match tokens with
          | .flowEntry :: rest => some rest
          | _ => none
      match start? with
      | none => none
      | some (.flowSequenceEnd :: rest) => some ⟨[], rest, scope⟩
      | some (.key :: rest) => do
        let pair ← readSinglePair scope rest fuel
        let others ← readFlowItems false pair.scope pair.rest fuel
        some { others with items := pair.node :: others.items }
      | some start => do
        let item ← readNode false false scope start fuel
        let others ← readFlowItems false item.scope item.rest fuel
        some { others with items := item.node :: others.items }

/-- Reads the only pair of a mapping without braces in a sequence in brackets. -/
def readSinglePair (scope : YamlScope) (tokens : List YamlToken) : Nat → Option NodeReading
  -- A key that is missing takes the token in its place along.
  | 0 => none
  | fuel + 1 => do
    let key ← if nextIsOneOf [.value, .flowEntry, .flowSequenceEnd] tokens then
        readNothing (tokens.drop 1) scope
      else readNode false false scope tokens fuel
    let value ← match key.rest with
      | .value :: rest =>
        if nextIsOneOf [.flowEntry, .flowSequenceEnd] rest then readNothing rest key.scope
        else readNode false false key.scope rest fuel
      | rest => readNothing rest key.scope
    some { value with node := .mapping [(key.node, value.node)] }

/-- Reads the pairs of a mapping in braces up to its end. -/
def readFlowPairs (isFirst : Bool) (scope : YamlScope) (tokens : List YamlToken) :
    Nat → Option (ItemsReading (YamlNode × YamlNode))
  -- A comma stands between two pairs, and may follow the last one.
  | 0 => none
  | fuel + 1 =>
    match tokens with
    | .flowMappingEnd :: rest => some ⟨[], rest, scope⟩
    | _ =>
      let start? := if isFirst then some tokens
        else match tokens with
          | .flowEntry :: rest => some rest
          | _ => none
      match start? with
      | none => none
      | some (.flowMappingEnd :: rest) => some ⟨[], rest, scope⟩
      | some (.key :: rest) => do
        let key ← if nextIsOneOf [.value, .flowEntry, .flowMappingEnd] rest then
            readNothing rest scope
          else readNode false false scope rest fuel
        let value ← match key.rest with
          | .value :: rest =>
            if nextIsOneOf [.flowEntry, .flowMappingEnd] rest then readNothing rest key.scope
            else readNode false false key.scope rest fuel
          | rest => readNothing rest key.scope
        let others ← readFlowPairs false value.scope value.rest fuel
        some { others with items := (key.node, value.node) :: others.items }
      | some start => do
        let key ← readNode false false scope start fuel
        let others ← readFlowPairs false key.scope key.rest fuel
        some { others with items := (key.node, .empty) :: others.items }

end

/-- Reads the directives in front of a document. -/
def readDirectives (hasVersion : Bool) (handles : List (String × String)) :
    List YamlToken → Option (List (String × String) × List YamlToken)
  -- At most one version is given, and each handle once.
  | .versionDirective major minor :: rest =>
    if hasVersion || major != 1 || (minor != 1 && minor != 2) then none
    else readDirectives true handles rest
  | .tagDirective handle stem :: rest =>
    if (handles.lookup handle).isSome then none
    else readDirectives hasVersion ((handle, stem) :: handles) rest
  | tokens => some (handles, tokens)

/-- Whether the next token cannot be part of a document, or there is none. -/
def endsDocument : List YamlToken → Bool
  -- Directives belong to the next document.
  | [] | .documentStart :: _ | .documentEnd :: _ | .versionDirective .. :: _
  | .tagDirective .. :: _ => true
  | _ => false

/-- Reads the outermost node of a document. -/
def readRoot (handles : List (String × String)) (tokens : List YamlToken) : Option NodeReading :=
  -- No token takes more than four rounds.
  readNode true false { handles } tokens (4 * tokens.length + 4)

/-- Reads the first document, with its directives and its marker. -/
def readDocument (tokens : List YamlToken) : Option NodeReading := do
  -- A document without a marker has no directives and is not empty.
  let (handles, start) ← readDirectives false [] tokens
  match start with
  | .documentStart :: rest =>
    if endsDocument rest then readNothing rest {} else readRoot handles rest
  | _ => if start.length == tokens.length then readRoot handles start else none

/-- A whole YAML text. -/
structure YamlDocument where
  root : YamlNode
  /-- What the references in it lead to. -/
  scope : YamlScope := {}

/-- The single document that a list of tokens writes. -/
def yamlDocument? (tokens : List YamlToken) : Option YamlDocument := do
  -- After the first document nothing but its end may follow.
  if tokens.isEmpty then return { root := .empty }
  let reading ← readDocument tokens
  if reading.rest.all (· == .documentEnd) then return ⟨reading.node, reading.scope⟩ else none

/-- The document that a YAML text writes. -/
def parseYaml? (text : String) : Option YamlDocument :=
  -- The text is cut into tokens first.
  (yamlTokens? text).bind yamlDocument?

end PhpOutline
