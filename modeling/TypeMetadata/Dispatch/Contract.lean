import TypeMetadata.Dispatch.Violation
import TypeMetadata.RuntimeTypes

/-!
The dispatch contract. A proxy base forwards every call through one entry point: a method of an
agreed name, declared on the base itself, that takes a completion source and an invokable and gives
nothing back. Other overloads of that name do no harm.
-/

namespace TypeMetadata

/-- A member under the dispatch name that is not the entry point, with the first condition that it
fails. -/
structure RejectedMember where
  display : String
  violation : DispatchViolation
deriving DecidableEq

inductive ContractError
  /-- It declares no member under the dispatch name. The types are those that the entry point would
  take. -/
  | missing (base dispatchMethod completionSource invokable : String)
  /-- It declares members under the dispatch name, and none of them is the entry point. They are
  listed in order of declaration. -/
  | unmatched (base : String) (first : RejectedMember) (others : List RejectedMember)
deriving DecidableEq

namespace ContractError

def base : ContractError → String
  | missing base _ _ _ => base
  | unmatched base _ _ => base

def rejected : ContractError → List RejectedMember
  | missing _ _ _ _ => []
  | unmatched _ first others => first :: others

/-- The condition that counts: what the first member fails, if there is one. -/
def violation : ContractError → DispatchViolation
  | missing _ _ _ _ => .notFound
  | unmatched _ first _ => first.violation

def complaint (member : RejectedMember) : String :=
  s!"complaint: {member.violation.text} for symbol: {member.display}"

def message (error : ContractError) : String :=
  match error with
  | missing base dispatchMethod completionSource invokable =>
    s!"proxy base type {base} does not contain a definition for " ++
      s!"void {dispatchMethod}({completionSource}, {invokable})"
  | unmatched base first others =>
    let complaints := Text.joined "; " ((first :: others).map complaint)
    s!"proxy base type {base}: {DispatchViolation.notFound.text}; {complaints}"

end ContractError

/-- The first condition of the contract that a member fails, in the order in which they are
checked; none if the member is the entry point. -/
def RuntimeTypes.dispatchViolation? (runtime : RuntimeTypes) : MemberKind → Option DispatchViolation
  | .field _ | .property _ => some .notMethod
  | .method signature =>
    if !signature.typeParameters.isEmpty then some .unexpectedTypeParameters
    else
      match signature.parameters with
      | [first, second] =>
        if first ≠ runtime.completionSource then some .firstParameterMismatch
        else if second ≠ runtime.invokable then some .secondParameterMismatch
        else if signature.returns.isSome then some .unexpectedReturnType
        else none
      | _ => some .wrongParameterCount

namespace Program

/-- The members with the conditions that they fail, or nothing if one of them is the entry point.
Members after the entry point are not looked at. -/
def rejectedMembers? (program : Program) (runtime : RuntimeTypes) :
    List (MemberHandle × Member) → Query (Option (List RejectedMember))
  | [] => return some []
  | (handle, member) :: members =>
    match runtime.dispatchViolation? member.kind with
    | none => return none
    | some violation => do
      let display ← program.memberDisplay handle
      let others ← program.rejectedMembers? runtime members
      return others.map (⟨display, violation⟩ :: ·)

def checkProxyBase (program : Program) (runtime : RuntimeTypes) (base : TypeHandle) :
    Query (Except ContractError Unit) := do
  let members ← program.membersNamed base runtime.dispatchMethod
  match ← program.rejectedMembers? runtime members with
  | none => return .ok ()
  | some [] =>
    let display ← program.displayName base
    let completionSource ← program.displayName runtime.completionSource
    let invokable ← program.displayName runtime.invokable
    return .error (.missing display runtime.dispatchMethod completionSource invokable)
  | some (first :: others) =>
    let display ← program.displayName base
    return .error (.unmatched display first others)

end Program

end TypeMetadata
