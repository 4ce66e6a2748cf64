import PhpOutline.Settings
import PhpOutline.Yaml.Node

/-! Settings as they are written in YAML. -/

namespace PhpOutline

/-- The text that a node writes. -/
def YamlNode.text? : YamlNode → Option String
  -- Numbers, truth values and null are texts too.
  | .scalar _ _ text => some text
  | _ => none

/-- Whether nothing is written in place of a node. -/
def YamlNode.isEmpty : YamlNode → Bool
  -- Quotes write an empty text instead.
  | .scalar .plain _ text => text.isEmpty
  | _ => false

/-- The list of texts that a node writes, in which references may lead elsewhere. -/
def YamlNode.texts? (scope : YamlScope) : YamlNode → Option (List String)
  -- Nothing at all is an empty list.
  | .sequence items => items.mapM fun item => (scope.resolve item).text?
  | node => if node.isEmpty then some [] else none

/-- The truth value that a word stands for. -/
def truthOf? (text : String) : Option Bool :=
  -- Each value has three spellings.
  if ["true", "True", "TRUE"].contains text then some true
  else if ["false", "False", "FALSE"].contains text then some false
  else none

/-- The truth value that a node writes. -/
def YamlNode.truth? : YamlNode → Option Bool
  -- Quoted words are texts, and blocks need a tag.
  | .scalar .plain _ text => truthOf? text
  | .scalar .literal (some tag) text =>
    if tag == "tag:yaml.org,2002:bool" then truthOf? text else none
  | _ => none

/-- Whether a word stands for null. -/
def isNullWord (text : String) : Bool :=
  -- The empty word is not one of them.
  ["null", "Null", "NULL", "~"].contains text

/-- The truth value that a node writes, which may be absent. -/
def YamlNode.optionalTruth? (node : YamlNode) : Option (Option Bool) :=
  -- Null and nothing at all make it absent, unless a tag says otherwise.
  match node with
  | .scalar .plain (some tag) text =>
    if tag == "tag:yaml.org,2002:null" then if isNullWord text then some none else none
    else node.truth?.map some
  | .scalar .plain none text =>
    if text.isEmpty || isNullWord text then some none else node.truth?.map some
  | _ => node.truth?.map some

/-- The settings after one more field. -/
def Settings.set? (settings : Settings) (scope : YamlScope) (field : String) (node : YamlNode) :
    Option Settings :=
  -- A field that is not known is passed over.
  let node := scope.resolve node
  match field with
  | "extensions" => (node.texts? scope).map fun extensions => { settings with extensions }
  | "excluded_paths" =>
    (node.texts? scope).map fun excludedPaths => { settings with excludedPaths }
  | "skip_hidden" => node.optionalTruth?.map fun skipHidden? => { settings with skipHidden? }
  | "include_interfaces" =>
    node.truth?.map fun includeInterfaces => { settings with includeInterfaces }
  | "include_traits" => node.truth?.map fun includeTraits => { settings with includeTraits }
  | "full_names" => node.optionalTruth?.map fun fullNames? => { settings with fullNames? }
  | "sort_uses" => node.optionalTruth?.map fun sortUses? => { settings with sortUses? }
  | "trim_chars" => (node.texts? scope).map fun trimPatterns => { settings with trimPatterns }
  | _ => some settings

/-- The fields of the settings. -/
def settingsFields : List String :=
  -- Each may be given once.
  ["extensions", "excluded_paths", "skip_hidden", "include_interfaces", "include_traits",
   "full_names", "sort_uses", "trim_chars"]

/-- Reads the fields of a mapping into the settings. -/
def Settings.read? (settings : Settings) (scope : YamlScope) (seen : List String) :
    List (YamlNode × YamlNode) → Option Settings
  -- A known field that comes twice is an error.
  | [] => some settings
  | (key, node) :: pairs => do
    let field ← (scope.resolve key).text?
    if settingsFields.contains field && seen.contains field then none
    let next ← settings.set? scope field node
    next.read? scope (field :: seen) pairs

/-- The settings that a YAML text writes. -/
def Settings.parse? (text : String) : Option Settings := do
  -- An empty text leaves everything as it is.
  let document ← parseYaml? text
  match document.root with
  | .mapping pairs => Settings.read? {} document.scope [] pairs
  | node => if node.isEmpty then some {} else none

end PhpOutline
