/-!
The ways in which a member can fail to be the dispatch entry point of a proxy base.
-/

namespace TypeMetadata

/-- A condition of the dispatch contract that is not met. -/
inductive DispatchViolation
  | notMethod
  | unexpectedTypeParameters
  | wrongParameterCount
  | firstParameterMismatch
  | secondParameterMismatch
  | unexpectedReturnType
  | notFound
deriving DecidableEq

namespace DispatchViolation

def code : DispatchViolation → String
  | notMethod => "not_method"
  | unexpectedTypeParameters => "unexpected_type_parameters"
  | wrongParameterCount => "wrong_parameter_count"
  | firstParameterMismatch => "parameter_0_mismatch"
  | secondParameterMismatch => "parameter_1_mismatch"
  | unexpectedReturnType => "unexpected_return_type"
  | notFound => "not_found"

def text : DispatchViolation → String
  | notMethod => "not a method"
  | unexpectedTypeParameters => "unexpected type parameters"
  | wrongParameterCount => "wrong parameter count"
  | firstParameterMismatch => "parameter 0 type mismatch"
  | secondParameterMismatch => "parameter 1 type mismatch"
  | unexpectedReturnType => "unexpected return type"
  | notFound => "no matching dispatch entry point found"

end DispatchViolation

end TypeMetadata
