/-!
Words that generated code cannot use as plain identifiers, and the escaped form that takes their
place.
-/

namespace TypeMetadata.Identifier

def reservedWords : List String := [
  "as", "break", "const", "continue", "crate", "else", "enum", "extern", "false", "fn", "for",
  "gen", "if", "impl", "in", "let", "loop", "match", "mod", "move", "mut", "pub", "ref", "return",
  "self", "Self", "static", "struct", "super", "trait", "true", "type", "unsafe", "use", "where",
  "while", "async", "await", "dyn", "abstract", "become", "box", "do", "final", "macro",
  "override", "priv", "typeof", "unsized", "virtual", "yield", "try"]

/-- The keywords that keep their meaning even behind the raw marker, so that only a change of
spelling frees them. -/
def pathKeywords : List String := ["crate", "self", "Self", "super"]

def isReserved (name : String) : Bool :=
  reservedWords.contains name

def isPathKeyword (name : String) : Bool :=
  pathKeywords.contains name

/-- The spelling of a name in generated code. A path keyword gets a trailing underscore, any other
keyword the raw marker, and every other name is kept as it is. -/
def escape (name : String) : String :=
  if isReserved name then
    if isPathKeyword name then name ++ "_" else "r#" ++ name
  else name

end TypeMetadata.Identifier
