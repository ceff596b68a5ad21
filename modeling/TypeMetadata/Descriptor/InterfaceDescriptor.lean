import TypeMetadata.Descriptor.Error

/-!
The descriptor of an invokable interface, and of the classes that are generated for it: one proxy,
and one invoker for each method.
-/

namespace TypeMetadata

/-- What tells one invokable method from another: the interface that it is called through, and the
member that it is. -/
structure MethodKey where
  interface : TypeHandle
  method : MemberHandle
deriving DecidableEq, Hashable

/-- An invokable method as its discoverer describes it. The name is for display only. -/
structure MethodDescriptor where
  interface : TypeHandle
  method : MemberHandle
  name : String
deriving DecidableEq

def MethodDescriptor.key (descriptor : MethodDescriptor) : MethodKey :=
  ⟨descriptor.interface, descriptor.method⟩

/-- The class that is generated for the calls of one method. -/
structure InvokerDescriptor where
  method : MethodDescriptor
  name : String
  generatedNamespace : String
deriving DecidableEq

namespace InvokerDescriptor

def key (invoker : InvokerDescriptor) : MethodKey :=
  invoker.method.key

def qualifiedName (invoker : InvokerDescriptor) : String :=
  s!"{invoker.generatedNamespace}.{invoker.name}"

end InvokerDescriptor

/-- The class that is generated to stand for an interface. -/
structure ProxyDescriptor where
  interface : TypeHandle
  name : String
  generatedNamespace : String
deriving DecidableEq

structure InterfaceDescriptor where
  type : TypeHandle
  name : String
  methods : List MethodDescriptor
  proxyBase : TypeHandle
  isExtension : Bool
  generatedNamespace : String
deriving DecidableEq

namespace InterfaceDescriptor

/-- Derive the descriptor of an interface. Its proxy base must keep the dispatch contract. -/
def build (program : Program) (runtime : RuntimeTypes) (type : TypeHandle) (name : String)
    (methods : List MethodDescriptor) (proxyBase : TypeHandle) (isExtension : Bool) :
    Query (Except DescriptorError InterfaceDescriptor) := do
  match ← program.checkProxyBase runtime proxyBase with
  | .error error => return .error (.contract error)
  | .ok () =>
    let scopeName ← program.scopeName type
    let generatedNamespace := runtime.generatedNamespace scopeName
    return .ok { type, name, methods, proxyBase, isExtension, generatedNamespace }

def proxy (descriptor : InterfaceDescriptor) : ProxyDescriptor where
  interface := descriptor.type
  name := s!"Proxy_{descriptor.name}"
  generatedNamespace := descriptor.generatedNamespace

/-- The name of the invoker of the method at a position. The position keeps overloads apart. -/
def invokerName (descriptor : InterfaceDescriptor) (method : MethodDescriptor) (position : Nat) :
    String :=
  s!"Invokable_{descriptor.name}_{method.name}_{position}"

def invokers (descriptor : InterfaceDescriptor) : List InvokerDescriptor :=
  descriptor.methods.zipIdx.map fun (method, position) => {
    method
    name := descriptor.invokerName method position
    generatedNamespace := descriptor.generatedNamespace }

end InterfaceDescriptor

end TypeMetadata
