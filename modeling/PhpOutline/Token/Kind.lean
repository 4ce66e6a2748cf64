/-! Kinds of tokens and their conventional names. -/

namespace PhpOutline

/-- The reserved words that decide structure, and one class for all the others. -/
inductive Keyword where
  | namespaceWord
  | useWord
  | classWord
  | interfaceWord
  | traitWord
  | enumWord
  | extendsWord
  | implementsWord
  | functionWord
  | fnWord
  | publicWord
  | protectedWord
  | privateWord
  | staticWord
  | abstractWord
  | finalWord
  | varWord
  | constWord
  | readonlyWord
  | newWord
  | returnWord
  | asWord
  /-- Every reserved word without a class of its own, such as `if` or `echo`. -/
  | otherWord
deriving DecidableEq, Repr

/-- What a token with text is. -/
inductive Kind where
  | openTag
  | echoTag
  | closeTag
  | inlineHtml
  | whitespace
  | comment
  | docComment
  /-- The two characters that open an attribute group. -/
  | attributeOpen
  | variableName
  | identifier
  | nameSeparator
  | stringLiteral
  | integer
  | decimal
  | doubleColon
  | objectArrow
  | doubleArrow
  | ellipsis
  | operator
  /-- A type between parentheses, such as `(int)`. -/
  | cast
  | word (keyword : Keyword)
deriving DecidableEq, Repr

/-- The reserved words with a class of their own, in lower case. -/
def structuralSpellings : List (String × Keyword) :=
  -- Every structural class has exactly one spelling.
  [("namespace", .namespaceWord), ("use", .useWord), ("class", .classWord),
   ("interface", .interfaceWord), ("trait", .traitWord), ("enum", .enumWord),
   ("extends", .extendsWord), ("implements", .implementsWord), ("function", .functionWord),
   ("fn", .fnWord), ("public", .publicWord), ("protected", .protectedWord),
   ("private", .privateWord), ("static", .staticWord), ("abstract", .abstractWord),
   ("final", .finalWord), ("var", .varWord), ("const", .constWord), ("readonly", .readonlyWord),
   ("new", .newWord), ("return", .returnWord), ("as", .asWord)]

/-- The reserved words that share one class, in lower case. -/
def otherSpellings : List String :=
  -- These words only matter because they are no identifiers.
  ["and", "array", "break", "callable", "case", "catch", "clone", "continue", "declare",
   "default", "do", "echo", "else", "elseif", "empty", "enddeclare", "endfor", "endforeach",
   "endif", "endswitch", "endwhile", "eval", "exit", "die", "finally", "for", "foreach",
   "global", "goto", "if", "include", "include_once", "instanceof", "insteadof", "isset",
   "list", "match", "or", "print", "require", "require_once", "switch", "throw", "try",
   "unset", "while", "xor", "yield"]

/-- Text with its ASCII letters in lower case and every other character as it was. -/
def lowerAscii (text : String) : String :=
  -- Letters outside ASCII have no case here.
  String.ofList (text.toList.map Char.toLower)

/-- The class of a reserved word, whatever the case of its ASCII letters. -/
def Keyword.ofText? (text : String) : Option Keyword :=
  -- A structural spelling wins, and a plain identifier has no class.
  let lower := lowerAscii text
  match structuralSpellings.lookup lower with
  | some keyword => some keyword
  | none => if otherSpellings.contains lower then some .otherWord else none

/-- The conventional name of the token kind of a reserved word. -/
def Keyword.name : Keyword → String
  -- Each name is the spelling in capitals.
  | .namespaceWord => "T_NAMESPACE"
  | .useWord => "T_USE"
  | .classWord => "T_CLASS"
  | .interfaceWord => "T_INTERFACE"
  | .traitWord => "T_TRAIT"
  | .enumWord => "T_ENUM"
  | .extendsWord => "T_EXTENDS"
  | .implementsWord => "T_IMPLEMENTS"
  | .functionWord => "T_FUNCTION"
  | .fnWord => "T_FN"
  | .publicWord => "T_PUBLIC"
  | .protectedWord => "T_PROTECTED"
  | .privateWord => "T_PRIVATE"
  | .staticWord => "T_STATIC"
  | .abstractWord => "T_ABSTRACT"
  | .finalWord => "T_FINAL"
  | .varWord => "T_VAR"
  | .constWord => "T_CONST"
  | .readonlyWord => "T_READONLY"
  | .newWord => "T_NEW"
  | .returnWord => "T_RETURN"
  | .asWord => "T_AS"
  | .otherWord => "T_KEYWORD"

/-- The conventional name of a kind. -/
def Kind.name : Kind → String
  -- The names are those of the language's own token list where it has one.
  | .openTag => "T_OPEN_TAG"
  | .echoTag => "T_OPEN_TAG_WITH_ECHO"
  | .closeTag => "T_CLOSE_TAG"
  | .inlineHtml => "T_INLINE_HTML"
  | .whitespace => "T_WHITESPACE"
  | .comment => "T_COMMENT"
  | .docComment => "T_DOC_COMMENT"
  | .attributeOpen => "T_ATTRIBUTE"
  | .variableName => "T_VARIABLE"
  | .identifier => "T_STRING"
  | .nameSeparator => "T_NS_SEPARATOR"
  | .stringLiteral => "T_CONSTANT_ENCAPSED_STRING"
  | .integer => "T_LNUMBER"
  | .decimal => "T_DNUMBER"
  | .doubleColon => "T_DOUBLE_COLON"
  | .objectArrow => "T_OBJECT_OPERATOR"
  | .doubleArrow => "T_DOUBLE_ARROW"
  | .ellipsis => "T_ELLIPSIS"
  | .operator => "T_OPERATOR"
  | .cast => "T_CAST"
  | .word keyword => keyword.name

/-- Every class of reserved words. -/
def Keyword.all : List Keyword :=
  -- The order is that of the declaration.
  [.namespaceWord, .useWord, .classWord, .interfaceWord, .traitWord, .enumWord, .extendsWord,
   .implementsWord, .functionWord, .fnWord, .publicWord, .protectedWord, .privateWord,
   .staticWord, .abstractWord, .finalWord, .varWord, .constWord, .readonlyWord, .newWord,
   .returnWord, .asWord, .otherWord]

/-- Every kind of token. -/
def Kind.all : List Kind :=
  -- The reserved words stand last.
  [.openTag, .echoTag, .closeTag, .inlineHtml, .whitespace, .comment, .docComment,
   .attributeOpen, .variableName, .identifier, .nameSeparator, .stringLiteral, .integer,
   .decimal, .doubleColon, .objectArrow, .doubleArrow, .ellipsis, .operator, .cast]
    ++ Keyword.all.map .word

/-- The kind that has a conventional name. -/
def Kind.ofName? (name : String) : Option Kind :=
  -- Names are unique, so the first kind found is the only one.
  Kind.all.find? fun kind => kind.name == name

/-- Whether a kind is a comment of either sort. -/
def Kind.isComment : Kind → Bool
  -- Documentation comments are comments too.
  | .comment | .docComment => true
  | _ => false

/-- Whether a kind is a reserved word. -/
def Kind.isReserved : Kind → Bool
  -- Every class of reserved words counts.
  | .word _ => true
  | _ => false

/-- Whether a kind opens the declaration of a class, interface, trait or enumeration. -/
def Kind.isClassLike : Kind → Bool
  -- An anonymous class opens with the same word, so the kind alone declares nothing.
  | .word .classWord | .word .interfaceWord | .word .traitWord | .word .enumWord => true
  | _ => false

end PhpOutline
