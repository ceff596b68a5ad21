import TypeMetadata.Declaration.Accessibility
import TypeMetadata.Declaration.Capability

/-!
Type declarations and the steps by which they are put together.
-/

namespace TypeMetadata

inductive TypeKind
  | classType
  | enumType
  | interfaceType
  | structType
deriving DecidableEq

namespace TypeKind

def text : TypeKind → String
  | classType => "Class"
  | enumType => "Enum"
  | interfaceType => "Interface"
  | structType => "Struct"

/-- Whether types of this sort are copied and not referred to. -/
def isValueType : TypeKind → Bool
  | enumType | structType => true
  | classType | interfaceType => false

end TypeKind

structure Constructor where
  accessibility : Accessibility
  parameterCount : Nat
deriving DecidableEq

/-- Whether a value can be made without arguments from outside: either no constructor is declared,
or one without parameters is public. -/
def allowEmptyConstruction (constructors : List Constructor) : Bool :=
  constructors.isEmpty ||
    constructors.any fun constructor =>
      constructor.parameterCount == 0 && constructor.accessibility == .everyone

/-- The declaration of one type, with everything that is written on it. -/
structure TypeDecl where
  name : String
  namespaceName : Option String
  kind : TypeKind
  accessibility : Accessibility
  isSealed : Bool
  isPartial : Bool
  /-- Whether the type is the root of the class hierarchy. -/
  isRootObject : Bool
  container : Option TypeHandle
  base : Option TypeHandle
  /-- The type that represents the values of an enumeration. -/
  underlying : Option TypeHandle
  typeParameters : List String
  constructors : List Constructor
  capabilities : List CapabilityUse
deriving DecidableEq

namespace TypeDecl

/-- A declaration that says no more than name and sort: a public type at the top level of the
global namespace. -/
def ofKind (name : String) (kind : TypeKind) : TypeDecl where
  name := name
  namespaceName := none
  kind := kind
  accessibility := .everyone
  isSealed := false
  isPartial := false
  isRootObject := false
  container := none
  base := none
  underlying := none
  typeParameters := []
  constructors := []
  capabilities := []

/-! ### Additions to a declaration -/

def inNamespace (decl : TypeDecl) (namespaceName : String) : TypeDecl :=
  { decl with namespaceName := some namespaceName }

def withAccessibility (decl : TypeDecl) (accessibility : Accessibility) : TypeDecl :=
  { decl with accessibility }

def withSeal (decl : TypeDecl) : TypeDecl :=
  { decl with isSealed := true }

def withFragments (decl : TypeDecl) : TypeDecl :=
  { decl with isPartial := true }

def asRootObject (decl : TypeDecl) : TypeDecl :=
  { decl with isRootObject := true }

def nestedIn (decl : TypeDecl) (container : TypeHandle) : TypeDecl :=
  { decl with container := some container }

def derivedFrom (decl : TypeDecl) (base : TypeHandle) : TypeDecl :=
  { decl with base := some base }

def withTypeParameter (decl : TypeDecl) (name : String) : TypeDecl :=
  { decl with typeParameters := decl.typeParameters ++ [name] }

def withConstructor (decl : TypeDecl) (accessibility : Accessibility) (parameterCount : Nat) :
    TypeDecl :=
  { decl with constructors := decl.constructors ++ [⟨accessibility, parameterCount⟩] }

def withCapability (decl : TypeDecl) (capability : Capability)
    (arguments : List AttributeArgument) : TypeDecl :=
  { decl with capabilities := decl.capabilities ++ [⟨capability, arguments⟩] }

/-! ### The usual beginnings -/

def ofClass (name : String) : TypeDecl :=
  ofKind name .classType

def ofValueType (name : String) : TypeDecl :=
  (ofKind name .structType).withSeal

def ofInterface (name : String) : TypeDecl :=
  ofKind name .interfaceType

def ofEnumeration (name : String) (underlying : TypeHandle) : TypeDecl :=
  { (ofKind name .enumType).withSeal with underlying := some underlying }

/-! ### What a declaration tells by itself -/

def isValueType (decl : TypeDecl) : Bool :=
  decl.kind.isValueType

def isEnum (decl : TypeDecl) : Bool :=
  decl.underlying.isSome

def hasCapability (decl : TypeDecl) (capability : Capability) : Bool :=
  decl.capabilities.any fun applied => applied.capability == capability

def hasAnyCapability (decl : TypeDecl) (capabilities : List Capability) : Bool :=
  capabilities.any decl.hasCapability

/-- The argument lists of all applications of a marker, in the order in which they are written. -/
def capabilityArguments (decl : TypeDecl) (capability : Capability) :
    List (List AttributeArgument) :=
  (decl.capabilities.filter fun applied => applied.capability == capability).map
    CapabilityUse.arguments

end TypeDecl

end TypeMetadata
