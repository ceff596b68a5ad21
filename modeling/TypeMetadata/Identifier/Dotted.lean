import TypeMetadata.Identifier.Word

/-!
Dotted identifiers: words joined by single dots, the form of namespaces and qualified names.
-/

namespace TypeMetadata.Identifier

/-- The segments of a text, cut at every dot. There is always at least one, and an empty segment
stands before a leading dot, after a trailing one and between two in a row. -/
def segments : List Char → List (List Char)
  | [] => [[]]
  | c :: rest =>
    match segments rest with
    | [] => [[c]]
    | first :: others => if c = '.' then [] :: first :: others else (c :: first) :: others

def isDotted (text : String) : Bool :=
  (segments text.toList).all isWord

end TypeMetadata.Identifier
