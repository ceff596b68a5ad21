import TypeMetadata.Program.Basic

/-!
Nesting: the types around a type, and what it takes over from them.
-/

namespace TypeMetadata

/-- A type parameter with the type that declares it and its place among the parameters of that
type. -/
structure TypeParameter where
  name : String
  owner : TypeHandle
  ordinal : Nat
deriving DecidableEq

namespace Program

/-- The type and the types around it with their declarations, from the inside out. A walk that
takes more than `steps` types has no answer. -/
def enclosingWithin (program : Program) :
    (steps : Nat) → TypeHandle → Query (List (TypeHandle × TypeDecl))
  | 0, ty => .error (.endlessNesting ty)
  | steps + 1, ty => do
    let decl ← program.decl ty
    match decl.container with
    | none => return [(ty, decl)]
    | some container =>
      let outer ← program.enclosingWithin steps container
      return (ty, decl) :: outer

/-- The type and the types around it with their declarations, from the inside out. A walk that
takes more types than the program has meets one of them twice, so it would never end. -/
def enclosing (program : Program) (ty : TypeHandle) : Query (List (TypeHandle × TypeDecl)) :=
  program.enclosingWithin program.size ty

def nestingPath (program : Program) (ty : TypeHandle) : Query (List TypeHandle) := do
  let enclosing ← program.enclosing ty
  return (enclosing.map Prod.fst).reverse

/-- The type parameters of the type and of the types around it. Those of the outermost type come
first, and those of one type keep their order. -/
def typeParameters (program : Program) (ty : TypeHandle) : Query (List TypeParameter) := do
  let enclosing ← program.enclosing ty
  return enclosing.reverse.flatMap fun (owner, decl) =>
    decl.typeParameters.zipIdx.map fun (name, ordinal) => ⟨name, owner, ordinal⟩

def isGeneric (program : Program) (ty : TypeHandle) : Query Bool := do
  let enclosing ← program.enclosing ty
  return enclosing.any fun (_, decl) => !decl.typeParameters.isEmpty

def effectiveAccessibility (program : Program) (ty : TypeHandle) : Query Accessibility := do
  let enclosing ← program.enclosing ty
  return (enclosing.map fun (_, decl) => decl.accessibility).foldl .restrict .everyone

end Program

end TypeMetadata
