import TypeMetadata.Descriptor.InterfaceDescriptor
import TypeMetadata.Proofs.Dispatch.Acceptance

/-!
What is said of a refused proxy base. The complaint goes through all that is declared on it under
the dispatch name and says of each member what is wrong with it first.
-/

namespace TypeMetadata

/-! ### The conditions one by one -/

/-- The conditions that a member can fail, in the order in which it is held against them. -/
def DispatchViolation.conditions : List DispatchViolation := [
  .notMethod, .unexpectedTypeParameters, .wrongParameterCount, .firstParameterMismatch,
  .secondParameterMismatch, .unexpectedReturnType]

namespace RuntimeTypes

/-- A member fails a condition, whatever other conditions it fails. -/
def fails (runtime : RuntimeTypes) : MemberKind → DispatchViolation → Bool
  | .method signature, .unexpectedTypeParameters => signature.typeParameters != []
  | .method signature, .wrongParameterCount => signature.parameters.length != 2
  | .method signature, .firstParameterMismatch =>
    signature.parameters[0]? != some runtime.completionSource
  | .method signature, .secondParameterMismatch =>
    signature.parameters[1]? != some runtime.invokable
  | .method signature, .unexpectedReturnType => signature.returns.isSome
  | .method _, _ => false
  | .field _, violation | .property _, violation => violation == .notMethod

theorem dispatchViolation?_eq_find? (runtime : RuntimeTypes) (kind : MemberKind) :
    runtime.dispatchViolation? kind = DispatchViolation.conditions.find? (runtime.fails kind) := by
  cases kind with
  | field ty => rfl
  | property ty => rfl
  | method signature =>
      obtain ⟨typeParameters, parameters, returns⟩ := signature
      by_cases hgeneric : typeParameters = []
      · subst hgeneric
        rcases parameters with _ | ⟨first, _ | ⟨second, _ | ⟨third, rest⟩⟩⟩
        · rfl
        · rfl
        · by_cases hfirst : first = runtime.completionSource
          · by_cases hsecond : second = runtime.invokable
            · cases returns <;>
                simp [dispatchViolation?, DispatchViolation.conditions, fails, hfirst, hsecond]
            · simp [dispatchViolation?, DispatchViolation.conditions, fails, hfirst, hsecond]
          · simp [dispatchViolation?, DispatchViolation.conditions, fails, hfirst]
        · simp [dispatchViolation?, DispatchViolation.conditions, fails]
      · have hfails : (typeParameters != []) = true := bne_iff_ne.mpr hgeneric
        simp [dispatchViolation?, DispatchViolation.conditions, fails, hgeneric, hfails]

theorem dispatchViolation?_ne_notFound (runtime : RuntimeTypes) (kind : MemberKind) :
    runtime.dispatchViolation? kind ≠ some .notFound := by
  rw [dispatchViolation?_eq_find?]
  intro hfound
  have hmem := List.mem_of_find?_eq_some hfound
  simp [DispatchViolation.conditions] at hmem

end RuntimeTypes

namespace ContractError

variable {error : ContractError} {first : RejectedMember} {others : List RejectedMember}

theorem violation_of_rejected (hrejected : error.rejected = first :: others) :
    error.violation = first.violation := by
  cases error with
  | missing base dispatchMethod completionSource invokable => cases hrejected
  | unmatched base head tail =>
      cases hrejected
      rfl

theorem violation_eq_notFound_iff (error : ContractError)
    (hrejected : ∀ refused ∈ error.rejected, refused.violation ≠ .notFound) :
    error.violation = .notFound ↔ error.rejected = [] := by
  cases error with
  | missing base dispatchMethod completionSource invokable => exact iff_of_true rfl rfl
  | unmatched base head tail =>
      exact iff_of_false (hrejected head List.mem_cons_self) (List.cons_ne_nil head tail)

theorem message_of_rejected (hrejected : error.rejected ≠ []) :
    error.message = s!"proxy base type {error.base}: {DispatchViolation.notFound.text}; " ++
      Text.joined "; " (error.rejected.map fun refused =>
        s!"complaint: {refused.violation.text} for symbol: {refused.display}") := by
  cases error with
  | missing base dispatchMethod completionSource invokable => exact absurd rfl hrejected
  | unmatched base head tail => rfl

end ContractError

namespace Program

section

variable {program : Program} {runtime : RuntimeTypes} {history : List Declaration}
  {base : TypeHandle}

/-! ### Refusal -/

theorem rejectedMembers?_eq_some_iff {members : List (MemberHandle × Member)}
    {rejected : List RejectedMember} :
    program.rejectedMembers? runtime members = .ok (some rejected) ↔
      List.Forall₂ (fun slot refused => program.memberDisplay slot.1 = .ok refused.display ∧
        runtime.dispatchViolation? slot.2.kind = some refused.violation) members rejected := by
  induction members generalizing rejected with
  | nil =>
      rw [rejectedMembers?, pure_eq_ok, Option.some_inj, List.forall₂_nil_left_iff]
      exact eq_comm
  | cons slot members ih =>
      obtain ⟨handle, member⟩ := slot
      rw [rejectedMembers?, List.forall₂_cons_left_iff]
      cases hviolation : runtime.dispatchViolation? member.kind with
      | none => simp [pure_eq_ok]
      | some violation =>
          simp only [bind_eq_ok, pure_eq_ok, Option.map_eq_some_iff, Option.some_inj]
          constructor
          · rintro ⟨display, hdisplay, _, hothers, others, rfl, rfl⟩
            exact ⟨_, _, ⟨hdisplay, rfl⟩, ih.mp hothers, rfl⟩
          · rintro ⟨⟨display, found⟩, others, ⟨hdisplay, rfl⟩, hothers, rfl⟩
            exact ⟨display, hdisplay, _, ih.mpr hothers, others, rfl, rfl⟩

theorem checkProxyBase_refuses {error : ContractError}
    (hcheck : program.checkProxyBase runtime base = .ok (.error error)) :
    ∃ members, program.membersNamed base runtime.dispatchMethod = .ok members ∧
      program.rejectedMembers? runtime members = .ok (some error.rejected) ∧
      program.displayName base = .ok error.base ∧
      ((∃ completionSource invokable,
          program.displayName runtime.completionSource = .ok completionSource ∧
          program.displayName runtime.invokable = .ok invokable ∧
          error = .missing error.base runtime.dispatchMethod completionSource invokable) ∨
        ∃ first others, error = .unmatched error.base first others) := by
  simp only [checkProxyBase, bind_eq_ok] at hcheck
  obtain ⟨members, hmembers, rejected, hrejected, hanswer⟩ := hcheck
  refine ⟨members, hmembers, ?_⟩
  rcases rejected with _ | _ | ⟨first, others⟩
  · rw [pure_eq_ok] at hanswer
    cases hanswer
  · simp only [bind_eq_ok, pure_eq_ok, Except.error.injEq] at hanswer
    obtain ⟨display, hdisplay, source, hsource, call, hcall, rfl⟩ := hanswer
    exact ⟨hrejected, hdisplay, .inl ⟨source, call, hsource, hcall, rfl⟩⟩
  · simp only [bind_eq_ok, pure_eq_ok, Except.error.injEq] at hanswer
    obtain ⟨display, hdisplay, rfl⟩ := hanswer
    exact ⟨hrejected, hdisplay, .inr ⟨first, others, rfl⟩⟩

theorem violation_ne_notFound {members : List (MemberHandle × Member)}
    {rejected : List RejectedMember}
    (hrejected : program.rejectedMembers? runtime members = .ok (some rejected)) :
    ∀ refused ∈ rejected, refused.violation ≠ .notFound := by
  rw [rejectedMembers?_eq_some_iff] at hrejected
  induction hrejected with
  | nil => simp
  | cons hhead _ ih =>
      rw [List.forall_mem_cons]
      refine ⟨?_, ih⟩
      intro hnotFound
      rw [hnotFound] at hhead
      exact runtime.dispatchViolation?_ne_notFound _ hhead.2

/-- A refusal goes through all members that are declared on the type under the dispatch name, in
order of declaration, and says of each what it fails first. The first of them decides the violation,
and the refusal of an interface for this proxy base says the same. -/
theorem refusal_goes_through_overloads (hdeclare : empty.declareAll history = .ok program)
    (hsize : program.members.size ≤ UInt32.size) {error : ContractError}
    (hcheck : program.checkProxyBase runtime base = .ok (.error error)) :
    List.Forall₂ (fun slot refused => program.memberDisplay slot.1 = .ok refused.display ∧
        DispatchViolation.conditions.find? (runtime.fails slot.2.kind) = some refused.violation)
      (overloads history base runtime.dispatchMethod) error.rejected ∧
      (overloads history base runtime.dispatchMethod).Pairwise
        (fun first second => first.1.index < second.1.index) ∧
      program.displayName base = .ok error.base ∧
      (error.violation = .notFound ↔ error.rejected = []) ∧
      (∀ first others, error.rejected = first :: others → error.violation = first.violation) ∧
      (∀ refused ∈ error.rejected, refused.violation ≠ .notFound) ∧
      (error.rejected = [] → ∃ completionSource invokable,
        program.displayName runtime.completionSource = .ok completionSource ∧
          program.displayName runtime.invokable = .ok invokable ∧
          error.message =
            s!"proxy base type {error.base} does not contain a definition for " ++
              s!"void {runtime.dispatchMethod}({completionSource}, {invokable})") ∧
      (error.rejected ≠ [] → error.message =
        s!"proxy base type {error.base}: {DispatchViolation.notFound.text}; " ++
          Text.joined "; " (error.rejected.map fun refused =>
            s!"complaint: {refused.violation.text} for symbol: {refused.display}")) ∧
      ∀ type name methods isExtension, ∃ refusal,
        InterfaceDescriptor.build program runtime type name methods base isExtension =
          .ok (.error refusal) ∧
        refusal.subject = error.base ∧ refusal.kind = .contract error.violation ∧
          refusal.detail = error.message := by
  have hlists := lists_of_declareAll hdeclare
  obtain ⟨members, hmembers, hrejected, hdisplay, hcases⟩ := checkProxyBase_refuses hcheck
  have hbase : base.index < program.size := by
    rw [displayName, bind_eq_ok] at hdisplay
    obtain ⟨name, hname, -⟩ := hdisplay
    exact index_lt_size_of_qualifiedName hname
  rw [hlists.membersNamed_eq hsize hbase, Except.ok.injEq] at hmembers
  subst hmembers
  have hnotFound := violation_ne_notFound hrejected
  refine ⟨?_, ?_, hdisplay, error.violation_eq_notFound_iff hnotFound,
    fun _ _ => ContractError.violation_of_rejected, hnotFound, ?_,
    ContractError.message_of_rejected, ?_⟩
  · simp only [← RuntimeTypes.dispatchViolation?_eq_find?]
    exact rejectedMembers?_eq_some_iff.mp hrejected
  · apply List.Pairwise.filter
    apply pairwise_membersOn
    rw [← hlists.members_eq, Array.length_toList]
    exact hsize
  · intro hnone
    rcases hcases with ⟨source, call, hsource, hcall, herror⟩ | ⟨first, others, herror⟩
    · exact ⟨source, call, hsource, hcall, congrArg ContractError.message herror⟩
    · rw [herror] at hnone
      cases hnone
  · intro type name methods isExtension
    refine ⟨.contract error, ?_, rfl, rfl, rfl⟩
    rw [InterfaceDescriptor.build, hcheck]
    rfl

end

namespace Relay

def refusal : ContractError :=
  .unmatched "Relay<T>" ⟨"Relay<T>.Send", .notMethod⟩ [
    ⟨"Relay<T>.Send(Call)", .wrongParameterCount⟩,
    ⟨"Relay<T>.Send(Call, Source)", .firstParameterMismatch⟩]

end Relay

theorem refusal_of_relay :
    (Relay.program (Relay.types ++ Relay.overloads)).checkProxyBase Relay.runtime ⟨2⟩ =
        .ok (.error Relay.refusal) ∧
      (overloads (Relay.types ++ Relay.overloads) ⟨2⟩ "Send").length = 3 ∧
      Relay.refusal.violation = .notMethod ∧
      ∃ refusal, InterfaceDescriptor.build (Relay.program (Relay.types ++ Relay.overloads))
          Relay.runtime ⟨1⟩ "Call" [] ⟨2⟩ false = .ok (.error refusal) ∧
        refusal.detail = Relay.refusal.message := by
  have hdeclare : empty.declareAll (Relay.types ++ Relay.overloads) =
      .ok (Relay.program (Relay.types ++ Relay.overloads)) := rfl
  have hcheck : (Relay.program (Relay.types ++ Relay.overloads)).checkProxyBase Relay.runtime ⟨2⟩ =
      .ok (.error Relay.refusal) := rfl
  obtain ⟨hlisted, -, -, -, hviolation, -, -, -, hbuild⟩ :=
    refusal_goes_through_overloads hdeclare (by decide) hcheck
  obtain ⟨refusal, hrefusal, -, -, hdetail⟩ := hbuild ⟨1⟩ "Call" [] false
  exact ⟨hcheck, hlisted.length_eq, hviolation _ _ rfl, refusal, hrefusal, hdetail⟩

end Program

end TypeMetadata
