/-!
Handles: the identities under which a program knows its types and members. Types and members are
counted apart, each from zero in order of declaration.
-/

namespace TypeMetadata

/-- The identity of a type declaration within one program. -/
structure TypeHandle where
  id : UInt32
deriving DecidableEq, Hashable

structure MemberHandle where
  id : UInt32
deriving DecidableEq, Hashable

namespace TypeHandle

def ofIndex (index : Nat) : TypeHandle := ⟨index.toUInt32⟩

def index (ty : TypeHandle) : Nat := ty.id.toNat

def text (ty : TypeHandle) : String := s!"type#{ty.index}"

end TypeHandle

namespace MemberHandle

def ofIndex (index : Nat) : MemberHandle := ⟨index.toUInt32⟩

def index (member : MemberHandle) : Nat := member.id.toNat

def text (member : MemberHandle) : String := s!"member#{member.index}"

end MemberHandle

end TypeMetadata
