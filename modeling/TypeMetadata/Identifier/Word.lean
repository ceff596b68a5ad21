import TypeMetadata.Text.Alphabetic
import TypeMetadata.Text.Numeric

/-!
Words: the character shape that identifiers and the segments of dotted identifiers share.
-/

namespace TypeMetadata.Identifier

def isWordStart (c : Char) : Bool :=
  Text.isAlphabetic c || c == '_'

def isWordContinue (c : Char) : Bool :=
  Text.isAlphabetic c || Text.isNumeric c || c == '_'

def isWord : List Char → Bool
  | [] => false
  | c :: rest => isWordStart c && rest.all isWordContinue

end TypeMetadata.Identifier
