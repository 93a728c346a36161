/-!
# Tokens of Java

A token is a piece of source text of some kind.  Keywords that are modifiers and keywords that
name basic types are kinds of their own, and `true`, `false` and `null` are literals.
-/

namespace BeanBuilder
namespace Java

/-- The kinds of tokens. -/
inductive TokenKind where
  | identifier
  | keyword
  | modifier
  | basicType
  | literal
  | separator
  | operator
  | at
  deriving DecidableEq, Repr

/-- A piece of source text of some kind. -/
structure Token where
  kind : TokenKind
  text : String
  deriving DecidableEq, Repr

/-- The keywords that are neither modifiers nor basic types. -/
def plainKeywords : List String :=
  ["assert", "break", "case", "catch", "class", "const", "continue", "do", "else", "enum",
    "extends", "finally", "for", "goto", "if", "implements", "import", "instanceof", "interface",
    "new", "package", "return", "super", "switch", "this", "throw", "throws", "try", "void",
    "while"]

/-- The keywords that may stand before a declaration. -/
def modifierWords : List String :=
  ["abstract", "default", "final", "native", "private", "protected", "public", "static",
    "strictfp", "synchronized", "transient", "volatile"]

/-- The keywords that name basic types. -/
def basicTypeWords : List String :=
  ["boolean", "byte", "char", "double", "float", "int", "long", "short"]

/-- The words that are values. -/
def literalWords : List String :=
  ["true", "false", "null"]

/-- The kind of a word. -/
def wordKind (word : String) : TokenKind :=
  if basicTypeWords.contains word then .basicType
  else if modifierWords.contains word then .modifier
  else if plainKeywords.contains word then .keyword
  else if literalWords.contains word then .literal
  else .identifier

/-- A word as a token. -/
def Token.ofWord (word : String) : Token :=
  ⟨wordKind word, word⟩

/-- The operators, longer ones first.  Shifts to the right are not among them, because their signs
may also close lists of type arguments. -/
def operators : List String :=
  [">>>=", ">>=", "<<=", "...", "%=", "^=", "|=", "&=", "/=", "*=", "-=", "+=", "<<", "--", "++",
    "||", "&&", "!=", ">=", "<=", "==", "->", "::", "%", "^", "|", "&", "/", "*", "-", "+", ":",
    "?", "~", "!", "<", ">", "="]

/-- The signs that part other tokens. -/
def separators : List Char :=
  ['(', ')', '{', '}', '[', ']', ';', ',', '.']

end Java
end BeanBuilder
