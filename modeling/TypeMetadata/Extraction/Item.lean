import TypeMetadata.Descriptor.InterfaceDescriptor
import TypeMetadata.Descriptor.TypeDescriptor

/-!
The items of a generation run: what discoverers find in a program, and what each item turns into
before it goes into the catalog.
-/

namespace TypeMetadata

structure TypeItem where
  type : TypeHandle
  members : List MemberDescriptor
  alternateName : Option String
  wellKnownId : Option UInt32
  isActivatable : Bool

structure InterfaceItem where
  type : TypeHandle
  name : String
  methods : List MethodDescriptor
  proxyBase : TypeHandle
  isExtension : Bool

/-- One unit of work of a generation run. -/
inductive Item
  | type (item : TypeItem)
  | interface (item : InterfaceItem)
  /-- A type that is not to be serialized but may serve others. -/
  | provider (type : TypeHandle)

structure Providers where
  serializer : Bool
  activator : Bool
  copier : Bool
deriving DecidableEq

def Providers.ofDecl (decl : TypeDecl) : Providers where
  serializer := decl.hasCapability .registerSerializer
  activator := decl.hasCapability .registerActivator
  copier := decl.hasCapability .registerCopier

inductive Outcome
  | type (descriptor : TypeDescriptor) (item : TypeItem) (providers : Providers)
  | interface (descriptor : InterfaceDescriptor)
  | provider (type : TypeHandle) (providers : Providers)

/-- What an item turns into, or why it has no descriptor. Nothing but the program and the runtime
types has a say in it. -/
def Item.extract (program : Program) (runtime : RuntimeTypes) :
    Item → Query (Except DescriptorError Outcome)
  | .type item => do
    match ← TypeDescriptor.build program runtime item.type item.members with
    | .error error => return .error error
    | .ok descriptor =>
      let decl ← program.decl item.type
      return .ok (.type descriptor item (.ofDecl decl))
  | .interface item => do
    let built ← InterfaceDescriptor.build program runtime item.type item.name item.methods
      item.proxyBase item.isExtension
    return built.map .interface
  | .provider ty => do
    let decl ← program.decl ty
    return .ok (.provider ty (.ofDecl decl))

end TypeMetadata
