import TypeMetadata.Proofs.Program.Closure
import TypeMetadata.Proofs.Program.Members

/-!
Which types are accepted as proxy bases, judged by what is declared on them: those that declare the
entry point, whatever else they declare.
-/

namespace TypeMetadata.Program

section

variable {program : Program} {runtime : RuntimeTypes} {history : List Declaration}
  {base : TypeHandle}

/-! ### Judgements that are passed -/

theorem MembersClosed.rejectedMembers?_answered (hclosed : program.MembersClosed)
    (runtime : RuntimeTypes)
    {members : List (MemberHandle × Member)}
    (hissued : ∀ slot ∈ members, slot.1.index < program.members.size) :
    Answered (program.rejectedMembers? runtime members) := by
  induction members with
  | nil => exact answered_pure _
  | cons slot members ih =>
      obtain ⟨handle, member⟩ := slot
      rw [List.forall_mem_cons] at hissued
      rw [rejectedMembers?]
      cases runtime.dispatchViolation? member.kind with
      | none => exact answered_pure _
      | some violation =>
          apply (hclosed.memberDisplay_answered hissued.1).bind
          intro display _
          exact (ih hissued.2).bind fun _ _ => answered_pure _

theorem WellFormed.index_lt_of_membersNamed (hwell : program.WellFormed) {ty : TypeHandle}
    {name : String} {members : List (MemberHandle × Member)}
    (hmembers : program.membersNamed ty name = .ok members) :
    ∀ slot ∈ members, slot.1.index < program.members.size := by
  intro slot hslot
  obtain ⟨all, hall, rfl⟩ := membersNamed_eq_ok.mp hmembers
  obtain ⟨entry, hentry, hhandle, -⟩ :=
    (mem_membersOf hall slot.1 slot.2).mp (List.mem_of_mem_filter hslot)
  exact hwell.member_lt ty entry hentry slot.1 hhandle

theorem MembersClosed.checkProxyBase_answered (hclosed : program.MembersClosed) {base : TypeHandle}
    (hbase : base.index < program.size)
    (hsource : runtime.completionSource.index < program.size)
    (hcall : runtime.invokable.index < program.size) :
    Answered (program.checkProxyBase runtime base) := by
  have hwell := hclosed.wellFormed
  apply (hwell.membersNamed_answered hbase runtime.dispatchMethod).bind
  intro members hmembers
  have hissued := hwell.index_lt_of_membersNamed hmembers
  apply (hclosed.rejectedMembers?_answered runtime hissued).bind
  intro rejected _
  rcases rejected with _ | _ | ⟨first, others⟩
  · exact answered_pure _
  · apply (hwell.displayName_answered hbase).bind
    intro display _
    apply (hwell.displayName_answered hsource).bind
    intro source _
    exact (hwell.displayName_answered hcall).bind fun _ _ => answered_pure _
  · exact (hwell.displayName_answered hbase).bind fun _ _ => answered_pure _

/-! ### Acceptance -/

/-- A program was put together by declarations, of no more members than there are handles, and the
parameters of all its methods are types of the program. -/
structure DeclaredBy (program : Program) (history : List Declaration) : Prop where
  declareAll_eq : empty.declareAll history = .ok program
  size_le : program.members.size ≤ UInt32.size
  parameter_lt : ∀ owner name signature,
    Declaration.member owner ⟨name, .method signature⟩ ∈ history →
      ∀ parameter ∈ signature.parameters, parameter.index < program.size

theorem DeclaredBy.membersClosed (hdeclared : program.DeclaredBy history) :
    program.MembersClosed := by
  have hrecorded : program.Recorded history := recorded_empty.declareAll hdeclared.declareAll_eq
  refine ⟨wellFormed_empty.declareAll hdeclared.declareAll_eq, hrecorded.owner_lt, ?_⟩
  rintro handle ⟨owner, name, _⟩ signature hentry rfl
  exact hdeclared.parameter_lt owner name signature (hrecorded.member_mem handle _ hentry)

theorem DeclaredBy.membersNamed_eq (hdeclared : program.DeclaredBy history)
    (hbase : base.index < program.size) (name : String) :
    program.membersNamed base name = .ok (overloads history base name) :=
  (lists_of_declareAll hdeclared.declareAll_eq).membersNamed_eq hdeclared.size_le hbase name

theorem DeclaredBy.checkProxyBase_accepts_iff (hdeclared : program.DeclaredBy history)
    (hbase : base.index < program.size) :
    program.checkProxyBase runtime base = .ok (.ok ()) ↔
      Declaration.member base ⟨runtime.dispatchMethod, .method runtime.entrySignature⟩ ∈
        history := by
  have hmembers := hdeclared.membersNamed_eq hbase runtime.dispatchMethod
  have hissued := hdeclared.membersClosed.wellFormed.index_lt_of_membersNamed hmembers
  obtain ⟨rejected, hrejected⟩ :=
    hdeclared.membersClosed.rejectedMembers?_answered runtime hissued
  rw [Program.checkProxyBase_accepts_iff]
  simp only [hmembers, Except.ok.injEq, exists_eq_left', hrejected]
  rw [rejectedMembers?_eq_none_iff hrejected]
  simp only [RuntimeTypes.dispatchViolation?_eq_none_iff, Prod.exists]
  constructor
  · rintro ⟨handle, ⟨name, kind⟩, hmem, rfl⟩
    obtain ⟨hdeclaration, rfl⟩ := exists_mem_overloads_iff.mp ⟨handle, hmem⟩
    exact hdeclaration
  · intro hdeclaration
    obtain ⟨handle, hmem⟩ := exists_mem_overloads_iff.mpr ⟨hdeclaration, rfl⟩
    exact ⟨handle, _, hmem, rfl⟩

theorem declaredBy_of_refersBelow {history : List Declaration}
    (hdeclare : empty.declareAll history = .ok program)
    (hsize : program.members.size ≤ UInt32.size)
    (hrefers : ∀ declaration ∈ history, declaration.RefersBelow program.size) :
    program.DeclaredBy history :=
  ⟨hdeclare, hsize, fun _ _ _ hmem => hrefers _ hmem⟩

/-- A type is accepted as a proxy base exactly if the entry point is declared on it under the
dispatch name. No other declaration has a say in it. -/
theorem accepted_iff_declares_entry_point (hdeclared : program.DeclaredBy history)
    (hbase : base.index < program.size) (runtime : RuntimeTypes) :
    (program.checkProxyBase runtime base = .ok (.ok ()) ↔
      Declaration.member base ⟨runtime.dispatchMethod, .method runtime.entrySignature⟩ ∈
        history) ∧
      (runtime.completionSource.index < program.size → runtime.invokable.index < program.size →
        program.checkProxyBase runtime base ≠ .ok (.ok ()) →
          ∃ error, program.checkProxyBase runtime base = .ok (.error error)) ∧
      ∀ (other : Program) (otherHistory : List Declaration), other.DeclaredBy otherHistory →
        base.index < other.size →
        (Declaration.member base ⟨runtime.dispatchMethod, .method runtime.entrySignature⟩ ∈
            otherHistory ↔
          Declaration.member base ⟨runtime.dispatchMethod, .method runtime.entrySignature⟩ ∈
            history) →
        (other.checkProxyBase runtime base = .ok (.ok ()) ↔
          program.checkProxyBase runtime base = .ok (.ok ())) := by
  refine ⟨hdeclared.checkProxyBase_accepts_iff hbase, ?_, ?_⟩
  · intro hsource hcall hrefused
    obtain ⟨answer, hanswer⟩ :=
      hdeclared.membersClosed.checkProxyBase_answered hbase hsource hcall
    cases answer with
    | error error => exact ⟨error, hanswer⟩
    | ok accepted => exact absurd hanswer hrefused
  · intro other otherHistory hother hissued hsame
    rw [hother.checkProxyBase_accepts_iff hissued, hdeclared.checkProxyBase_accepts_iff hbase, hsame]

end

namespace Relay

def runtime : RuntimeTypes := ⟨"Generated", "Send", ⟨0⟩, ⟨1⟩⟩

def entryPoint : Declaration :=
  .member ⟨2⟩ ⟨"Send", .method ⟨[], [⟨0⟩, ⟨1⟩], none⟩⟩

def types : List Declaration := [
  .type (TypeDecl.ofInterface "Source"),
  .type (TypeDecl.ofInterface "Call"),
  .type ((TypeDecl.ofClass "Relay").withTypeParameter "T")]

/-- Overloads each of which fails another condition, two of them more than one, and what would be
the entry point of another type. -/
def overloads : List Declaration := [
  .member ⟨2⟩ ⟨"Send", .field ⟨0⟩⟩,
  .member ⟨2⟩ ⟨"Send", .method ⟨[], [⟨1⟩], some ⟨1⟩⟩⟩,
  .member ⟨1⟩ ⟨"Send", .method ⟨[], [⟨0⟩, ⟨1⟩], none⟩⟩,
  .member ⟨2⟩ ⟨"Send", .method ⟨[], [⟨1⟩, ⟨0⟩], none⟩⟩]

def program (history : List Declaration) : Program :=
  (empty.declareAll history).toOption.getD empty

end Relay

theorem entry_point_of_relay :
    (Relay.program (Relay.types ++ Relay.overloads ++ [Relay.entryPoint])).checkProxyBase
        Relay.runtime ⟨2⟩ = .ok (.ok ()) ∧
      (Relay.program (Relay.types ++ Relay.entryPoint :: Relay.overloads)).checkProxyBase
        Relay.runtime ⟨2⟩ = .ok (.ok ()) ∧
      ∃ error, (Relay.program (Relay.types ++ Relay.overloads)).checkProxyBase
        Relay.runtime ⟨2⟩ = .ok (.error error) := by
  have hlast : (Relay.program (Relay.types ++ Relay.overloads ++ [Relay.entryPoint])).DeclaredBy
      (Relay.types ++ Relay.overloads ++ [Relay.entryPoint]) :=
    declaredBy_of_refersBelow rfl (by decide) (by decide)
  have hfirst : (Relay.program (Relay.types ++ Relay.entryPoint :: Relay.overloads)).DeclaredBy
      (Relay.types ++ Relay.entryPoint :: Relay.overloads) :=
    declaredBy_of_refersBelow rfl (by decide) (by decide)
  have hnone : (Relay.program (Relay.types ++ Relay.overloads)).DeclaredBy
      (Relay.types ++ Relay.overloads) :=
    declaredBy_of_refersBelow rfl (by decide) (by decide)
  have hissued : TypeHandle.index ⟨2⟩ < 3 := by decide
  obtain ⟨haccepts, -, hsame⟩ := accepted_iff_declares_entry_point hlast hissued Relay.runtime
  obtain ⟨hrefuses, hanswered, -⟩ := accepted_iff_declares_entry_point hnone hissued Relay.runtime
  have hentry : Relay.entryPoint ∈ Relay.types ++ Relay.overloads ++ [Relay.entryPoint] :=
    List.mem_append_right _ List.mem_cons_self
  have haccepted := haccepts.mpr hentry
  refine ⟨haccepted, ?_, ?_⟩
  · have hagain : Relay.entryPoint ∈ Relay.types ++ Relay.entryPoint :: Relay.overloads :=
      List.mem_append_right _ List.mem_cons_self
    exact (hsame _ _ hfirst hissued (iff_of_true hagain hentry)).mpr haccepted
  · apply hanswered (by decide) (by decide)
    rw [ne_eq, hrefuses]
    simp [Relay.types, Relay.overloads, Relay.runtime, RuntimeTypes.entrySignature]

end TypeMetadata.Program
