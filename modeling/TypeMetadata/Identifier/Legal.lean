import TypeMetadata.Identifier.Reserved
import TypeMetadata.Identifier.Word

/-!
Which texts can stand as an identifier in generated code.
-/

namespace TypeMetadata.Identifier

/-- A word other than the lone underscore, which names nothing. -/
def isNamingWord (chars : List Char) : Bool :=
  isWord chars && chars != ['_']

/-- Whether a text can stand as an identifier in generated code. Behind the raw marker any naming
word will do that is not a path keyword; without it the word must not be reserved. -/
def isLegal (ident : String) : Bool :=
  match ident.toList with
  | 'r' :: '#' :: body => !isPathKeyword (String.ofList body) && isNamingWord body
  | body => !isReserved ident && isNamingWord body

end TypeMetadata.Identifier
