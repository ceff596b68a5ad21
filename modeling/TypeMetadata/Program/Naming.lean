import TypeMetadata.Program.Nesting
import TypeMetadata.Text.Joined

/-!
The names of types and members: where a type stands, its qualified name, and the forms in which
complaints show types and members.
-/

namespace TypeMetadata

def genericSuffix (typeParameters : List String) : String :=
  if typeParameters.isEmpty then "" else "<" ++ Text.joined ", " typeParameters ++ ">"

/-- A name behind the scope it stands in. The global scope has an empty name and is not
written. -/
def qualify (scope name : String) : String :=
  if scope.isEmpty then name else s!"{scope}.{name}"

/-- The names of the scopes around the first of some types, each of which stands in the next: the
namespace of the last, if it has one, and the names of all but the first, from the outside in. -/
def scopesOf (enclosing : List TypeDecl) : List String :=
  (enclosing.getLast?.bind TypeDecl.namespaceName).toList ++
    (enclosing.tail.map TypeDecl.name).reverse

/-- The name of the scope that holds the first of some types, each of which stands in the next. -/
def scopeNameOf (enclosing : List TypeDecl) : String :=
  Text.joined "." (scopesOf enclosing)

namespace Program

/-- The namespace of a type followed by the names of the types around it. Only the outermost type
has a say in the namespace. -/
def scopeName (program : Program) (ty : TypeHandle) : Query String := do
  let enclosing ← program.enclosing ty
  return scopeNameOf (enclosing.map Prod.snd)

def qualifiedName (program : Program) (ty : TypeHandle) : Query String := do
  let scope ← program.scopeName ty
  let decl ← program.decl ty
  return qualify scope decl.name

/-- The qualified name together with the type parameters that the type itself declares. -/
def displayName (program : Program) (ty : TypeHandle) : Query String := do
  let qualified ← program.qualifiedName ty
  let decl ← program.decl ty
  return qualified ++ genericSuffix decl.typeParameters

/-- A member as complaints show it: behind the type it was declared on, and for a method with its
type parameters and the types of its parameters. -/
def memberDisplay (program : Program) (member : MemberHandle) : Query String := do
  let entry ← program.memberEntry member
  let owner ← program.displayName entry.owner
  match entry.member.kind with
  | .field _ | .property _ => return s!"{owner}.{entry.member.name}"
  | .method signature =>
    let types ← signature.parameters.mapM program.displayName
    let generics := genericSuffix signature.typeParameters
    let parameters := Text.joined ", " types
    return s!"{owner}.{entry.member.name}{generics}({parameters})"

end Program

end TypeMetadata
