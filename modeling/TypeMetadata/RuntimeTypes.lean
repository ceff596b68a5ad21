import TypeMetadata.Config.Basic
import TypeMetadata.Program.Declare

/-!
The types of a program that the dispatch contract refers to, together with the names that one
generation run uses throughout.
-/

namespace TypeMetadata

/-- The part that a runtime type plays in the dispatch contract. -/
inductive RuntimeRole
  | completionSource
  | invokable
deriving DecidableEq

def RuntimeRole.text : RuntimeRole → String
  | completionSource => "response completion source"
  | invokable => "invokable request"

/-- The program has no type of the name that the settings give for a role. -/
structure UnresolvedType where
  role : RuntimeRole
  name : String
deriving DecidableEq

def UnresolvedType.message (error : UnresolvedType) : String :=
  s!"well-known type '{error.name}' ({error.role.text}) not found in the semantic source"

structure RuntimeTypes where
  namespaceRoot : String
  dispatchMethod : String
  completionSource : TypeHandle
  invokable : TypeHandle
deriving DecidableEq

namespace RuntimeTypes

def resolveRole (program : Program) (role : RuntimeRole) (name : String) :
    Except UnresolvedType TypeHandle :=
  match program.resolve? name with
  | some ty => .ok ty
  | none => .error ⟨role, name⟩

def resolve (program : Program) (config : Config) : Except UnresolvedType RuntimeTypes := do
  let completionSource ←
    resolveRole program .completionSource config.runtimeNames.completionSource
  let invokable ← resolveRole program .invokable config.runtimeNames.invokable
  return {
    namespaceRoot := config.namespaceRoot
    dispatchMethod := config.dispatchMethod
    completionSource
    invokable }

def generatedNamespace (runtime : RuntimeTypes) (scope : String) : String :=
  if scope.isEmpty then runtime.namespaceRoot else s!"{runtime.namespaceRoot}.{scope}"

end RuntimeTypes

end TypeMetadata
