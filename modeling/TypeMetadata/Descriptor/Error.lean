import TypeMetadata.Dispatch.Contract

/-!
Why a type or an interface has no descriptor.
-/

namespace TypeMetadata

inductive DescriptorError
  | contract (error : ContractError)
  /-- An application of the serialization callbacks marker does not begin with a type. Applications
  are counted from zero among those of this marker. -/
  | malformedHook (subject : String) (position : Nat) (found : Option AttributeArgument)
deriving DecidableEq

/-- The sort of rule that a declaration breaks. -/
inductive DescriptorErrorKind
  | contract (violation : DispatchViolation)
  | malformedCapability (capability : Capability)
deriving DecidableEq

def DescriptorErrorKind.text : DescriptorErrorKind → String
  | contract violation => s!"contract:{violation.code}"
  | malformedCapability capability => s!"malformed_capability:{capability.text}"

namespace DescriptorError

def subject : DescriptorError → String
  | contract error => error.base
  | malformedHook subject _ _ => subject

def kind : DescriptorError → DescriptorErrorKind
  | contract error => .contract error.violation
  | malformedHook _ _ _ => .malformedCapability .serializationCallbacks

def violation? : DescriptorError → Option DispatchViolation
  | contract error => some error.violation
  | malformedHook _ _ _ => none

def detail : DescriptorError → String
  | contract error => error.message
  | malformedHook _ position (some found) =>
    s!"declaration #{position} expects a hook type argument, found {found.text}"
  | malformedHook _ position none =>
    s!"declaration #{position} is missing its hook type argument"

def message (error : DescriptorError) : String :=
  s!"{error.subject}: {error.detail}"

end DescriptorError

end TypeMetadata
