import PhpOutline.Heritage
import PhpOutline.Method
import PhpOutline.Property
import PhpOutline.Settings
import PhpOutline.Token.Tokenize

/-! Outlines: everything that is known of one source text. -/

namespace PhpOutline

/-- Everything that is known of one source text. -/
structure Outline where
  /-- Where the text was read from, if it was a file. -/
  path? : Option String := none
  space? : Option String
  classes : List String
  parent? : Option String
  interfaces : List String
  imports : List String
  properties : List Property
  methods : List Method

/-- The outline of a list of tokens. -/
def Outline.ofTokens (settings : Settings) (tokens : List Token) : Except Fault Outline := do
  -- Only properties and methods can fail, and properties come first.
  let foundProperties ← PhpOutline.properties tokens
  let foundMethods ← PhpOutline.methods tokens
  return {
    space? := namespaceName? tokens
    classes := classNames settings.fullNames settings.classFilter tokens
    parent? := parentName? settings.fullNames tokens
    interfaces := interfaceNames settings.fullNames tokens
    imports := PhpOutline.imports settings.sortUses tokens
    properties := foundProperties
    methods := foundMethods }

/-- The outline of a source text. -/
def Outline.ofSource (settings : Settings) (source : String) : Except Fault Outline :=
  -- The text is cut into tokens first.
  Outline.ofTokens settings (tokenize source)

end PhpOutline
