/-!
The values of a TOML document.
-/

namespace TypeMetadata.Toml

/-- A value of a TOML document. Floats and points in time keep their spelling, since nothing here
computes with them. A table lists its entries in the order in which they were first mentioned. -/
inductive Value
  | string (text : String)
  | integer (number : Int)
  | float (spelling : String)
  /-- Something that begins like a whole number but spells none. It may stand in a document, but
  only where nobody reads it. -/
  | unreadable (spelling : String)
  | boolean (value : Bool)
  | dateTime (spelling : String)
  | array (elements : List Value)
  | table (entries : List (String × Value))

abbrev Table := List (String × Value)

end TypeMetadata.Toml
