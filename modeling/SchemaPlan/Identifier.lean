/-!
# Identifiers

Table and column names end up in file names and in generated code, so they
are limited to ASCII letters, digits and underscores and do not begin with
a digit.
-/

namespace SchemaPlan

/-- Whether a character may begin an identifier. -/
def isIdentifierStart (c : Char) : Bool :=
  c.isAlpha || c == '_'

/-- Whether a character may follow in an identifier. -/
def isIdentifierRest (c : Char) : Bool :=
  c.isAlphanum || c == '_'

/-- Whether the characters are an identifier. -/
def isIdentifierChars : List Char → Bool
  | [] => false
  | c :: cs => isIdentifierStart c && cs.all isIdentifierRest

/-- Whether a name is an identifier: an ASCII letter or underscore, then
ASCII letters, digits and underscores. -/
def isIdentifier (name : String) : Bool :=
  isIdentifierChars name.toList

end SchemaPlan
