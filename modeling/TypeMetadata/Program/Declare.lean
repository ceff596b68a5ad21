import TypeMetadata.Program.Naming

/-!
Adding declarations to a program.
-/

namespace TypeMetadata.Program

/-- Add a type after those there are. Its qualified name then leads to it and no longer to an
earlier type of that name. The types around it must have been declared before. -/
def declare (program : Program) (decl : TypeDecl) : Query (TypeHandle × Program) := do
  let ty := TypeHandle.ofIndex program.size
  let extended := { program with types := program.types.push ⟨decl, []⟩ }
  let name ← extended.qualifiedName ty
  return (ty, { extended with byName := extended.byName.insert name ty })

/-- Add a member after those there are, to the table and to the list of the type it is declared
on. -/
def declareMember (program : Program) (owner : TypeHandle) (member : Member) :
    Query (MemberHandle × Program) := do
  let handle := MemberHandle.ofIndex program.members.size
  let entry ← program.entry owner
  let extended := { entry with members := entry.members ++ [handle] }
  return (handle, {
    program with
    types := program.types.setIfInBounds owner.index extended
    members := program.members.push ⟨owner, member⟩ })

end TypeMetadata.Program
