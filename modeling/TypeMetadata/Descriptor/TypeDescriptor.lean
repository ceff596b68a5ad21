import TypeMetadata.Descriptor.Error
import TypeMetadata.Identifier.Unique

/-!
The descriptor of a serializable type: every fact that an emitter of code needs about it.
-/

namespace TypeMetadata

structure MemberDescriptor where
  name : String
  member : MemberHandle
  type : TypeHandle
  fieldId : UInt32
deriving DecidableEq

/-- The type that a descriptor gives as the base. -/
inductive BaseType
  /-- An enumeration has the type that represents its values in the place of a base. -/
  | enumUnderlying (type : TypeHandle)
  | declared (type : TypeHandle)
  | none
deriving DecidableEq

namespace BaseType

def ofDecl (decl : TypeDecl) : BaseType :=
  match decl.underlying, decl.base with
  | some underlying, _ => enumUnderlying underlying
  | Option.none, some base => declared base
  | Option.none, Option.none => none

def type? : BaseType → Option TypeHandle
  | enumUnderlying type => some type
  | declared type => some type
  | none => Option.none

def isEnumUnderlying : BaseType → Bool
  | enumUnderlying _ => true
  | declared _ => false
  | none => false

end BaseType

structure TypeDescriptor where
  type : TypeHandle
  name : String
  /-- The namespace and the names of the types around. -/
  scopeName : String
  generatedNamespace : String
  display : String
  accessibility : Accessibility
  /-- An identifier for each type parameter in reach, from the outermost type to the type
  itself. -/
  typeParameters : List (String × TypeParameter)
  isValueType : Bool
  isSealed : Bool
  isEnum : Bool
  isGeneric : Bool
  isPartial : Bool
  baseType : BaseType
  /-- Whether there is a base whose own members have to be serialized too. -/
  hasComplexBaseType : Bool
  members : List MemberDescriptor
  /-- The types whose methods are to be called around serialization. -/
  serializationHooks : List TypeHandle
  isEmptyConstructable : Bool
  /-- Whether values are made by an activator and not by a constructor. -/
  useActivator : Bool
  trackReferences : Bool
  omitDefaultMemberValues : Bool
  isImmutable : Bool
deriving DecidableEq

namespace TypeDescriptor

/-- The hook types that the applications of the serialization callbacks marker name, in order. Each
must begin with a type; the first that does not is the one to complain about. -/
def hooksOf (subject : String) (applications : List (List AttributeArgument)) :
    Except DescriptorError (List TypeHandle) :=
  applications.zipIdx.mapM fun (arguments, position) =>
    match arguments with
    | .type hook :: _ => .ok hook
    | _ => .error (.malformedHook subject position arguments.head?)

/-- Whether a declaration has a base whose own members count. Value types have none, and the root of
the class hierarchy has no members of its own. -/
def hasComplexBase (program : Program) (decl : TypeDecl) : Query Bool :=
  match decl.isValueType, BaseType.ofDecl decl with
  | false, .declared base => do
    let baseDecl ← program.decl base
    return !baseDecl.isRootObject
  | _, _ => return false

/-- Derive the descriptor of a type. The members are kept as they are given. -/
def build (program : Program) (runtime : RuntimeTypes) (ty : TypeHandle)
    (members : List MemberDescriptor) : Query (Except DescriptorError TypeDescriptor) := do
  let display ← program.displayName ty
  let decl ← program.decl ty
  match hooksOf display (decl.capabilityArguments .serializationCallbacks) with
  | .error error => return .error error
  | .ok serializationHooks =>
    let parameters ← program.typeParameters ty
    let hasComplexBaseType ← hasComplexBase program decl
    let scopeName ← program.scopeName ty
    let accessibility ← program.effectiveAccessibility ty
    let isGeneric ← program.isGeneric ty
    let baseType := BaseType.ofDecl decl
    let isEmptyConstructable := allowEmptyConstruction decl.constructors
    return .ok {
      type := ty
      name := decl.name
      scopeName
      generatedNamespace := runtime.generatedNamespace scopeName
      display
      accessibility
      typeParameters :=
        (Identifier.allocateUnique (parameters.map TypeParameter.name)).zip parameters
      isValueType := decl.isValueType
      isSealed := decl.isSealed
      isEnum := baseType.isEnumUnderlying
      isGeneric
      isPartial := decl.isPartial
      baseType
      hasComplexBaseType
      members
      serializationHooks
      isEmptyConstructable
      useActivator := decl.hasCapability .useActivator || !isEmptyConstructable
      trackReferences := !decl.isValueType && !decl.hasCapability .suppressReferenceTracking
      omitDefaultMemberValues := decl.hasCapability .omitDefaultMemberValues
      isImmutable :=
        baseType.isEnumUnderlying || decl.hasAnyCapability Capability.immutabilityMarkers }

end TypeDescriptor

end TypeMetadata
