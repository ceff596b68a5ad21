import TypeMetadata.Toml.Syntax

/-!
Documents: the table that the statements of a text build up together.
-/

namespace TypeMetadata.Toml

/-- A document under construction, with the keys that lead to the table that is open. -/
structure Document where
  entries : Entries
  openPath : List String

namespace Document

def empty : Document := ⟨[], []⟩

/-- The document with one more statement, if it agrees with those before. -/
def add? (document : Document) : Statement → Option Document
  | .table path => do
    let entries ← document.entries.openTable? path
    return ⟨entries, path.parents ++ [path.last]⟩
  | .element path => do
    let entries ← document.entries.openElement? path
    return ⟨entries, path.parents ++ [path.last]⟩
  | .assignment path value => do
    let entries ← Walk.ofHeader.alter? (fun _ inner => inner.assign? path value)
      document.openPath .defined document.entries
    return ⟨entries, document.openPath⟩

end Document

def skipByteOrderMark : List Char → List Char
  | '\ufeff' :: rest => rest
  | text => text

def Table.ofText? (text : String) : Option Table := do
  let statements ← readStatements (skipByteOrderMark text.toList)
  let document ← statements.foldlM Document.add? Document.empty
  return tableOfEntries document.entries

end TypeMetadata.Toml
