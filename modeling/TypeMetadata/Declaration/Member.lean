import TypeMetadata.Declaration.Handle

/-!
Members of types: fields, properties and methods.
-/

namespace TypeMetadata

/-- What the declaration of a method says apart from its name. A method that gives nothing back
has no return type. -/
structure MethodSignature where
  typeParameters : List String
  parameters : List TypeHandle
  returns : Option TypeHandle
deriving DecidableEq

inductive MemberKind
  | field (type : TypeHandle)
  | property (type : TypeHandle)
  | method (signature : MethodSignature)
deriving DecidableEq

structure Member where
  name : String
  kind : MemberKind
deriving DecidableEq

end TypeMetadata
