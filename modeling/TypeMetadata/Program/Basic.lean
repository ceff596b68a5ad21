import Std.Data.ExtTreeMap
import TypeMetadata.Declaration.Member
import TypeMetadata.Declaration.TypeDecl

/-!
A program: all declared types and members, and the table of qualified names. Handles are positions
in the two tables, so a question about a handle that was never issued has no answer.
-/

namespace TypeMetadata

/-- Why a question about a program has no answer. -/
inductive Fault
  | unissuedType (ty : TypeHandle)
  | unissuedMember (member : MemberHandle)
  /-- The containers of the type never come to an outermost one. -/
  | endlessNesting (ty : TypeHandle)
deriving DecidableEq

/-- The answer to a question about a program, if it has one. -/
abbrev Query := Except Fault

structure TypeEntry where
  decl : TypeDecl
  members : List MemberHandle

structure MemberEntry where
  owner : TypeHandle
  member : Member

/-- All declarations of a program, each table in order of declaration. -/
structure Program where
  types : Array TypeEntry
  members : Array MemberEntry
  /-- The type that was declared last under each qualified name. -/
  byName : Std.ExtTreeMap String TypeHandle

namespace Program

def empty : Program := ⟨#[], #[], ∅⟩

def size (program : Program) : Nat :=
  program.types.size

def entry (program : Program) (ty : TypeHandle) : Query TypeEntry :=
  match program.types[ty.index]? with
  | some entry => .ok entry
  | none => .error (.unissuedType ty)

def decl (program : Program) (ty : TypeHandle) : Query TypeDecl := do
  let entry ← program.entry ty
  return entry.decl

def memberEntry (program : Program) (member : MemberHandle) : Query MemberEntry :=
  match program.members[member.index]? with
  | some entry => .ok entry
  | none => .error (.unissuedMember member)

def member (program : Program) (member : MemberHandle) : Query Member := do
  let entry ← program.memberEntry member
  return entry.member

/-- The members declared on the type itself, in order of declaration. -/
def membersOf (program : Program) (ty : TypeHandle) : Query (List (MemberHandle × Member)) := do
  let entry ← program.entry ty
  entry.members.mapM fun handle => do
    let member ← program.member handle
    return (handle, member)

def membersNamed (program : Program) (ty : TypeHandle) (name : String) :
    Query (List (MemberHandle × Member)) := do
  let members ← program.membersOf ty
  return members.filter fun (_, member) => member.name == name

def resolve? (program : Program) (qualifiedName : String) : Option TypeHandle :=
  program.byName[qualifiedName]?

end Program

end TypeMetadata
