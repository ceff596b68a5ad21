import TypeMetadata.Proofs.Descriptor.Hooks
import TypeMetadata.Proofs.Descriptor.Permanence

/-!
The hooks of a descriptor, and the complaint about the first application that names none. Other
markers may stand between the applications; positions do not count them.
-/

namespace TypeMetadata

/-! ### Applications of one marker among all others -/

namespace TypeDecl

variable {decl : TypeDecl} {capability : Capability}

/-- An argument list belongs to an application that is written in the declaration, and the argument
lists before it to the applications of the marker that are written before. -/
theorem exists_split_of_capabilityArguments {before after : List (List AttributeArgument)}
    {arguments : List AttributeArgument}
    (hsplit : decl.capabilityArguments capability = before ++ arguments :: after) :
    ∃ earlier applied later, decl.capabilities = earlier ++ applied :: later ∧
      applied.capability = capability ∧ applied.arguments = arguments ∧
      (earlier.filter fun other => other.capability == capability).map CapabilityUse.arguments =
        before := by
  obtain ⟨firsts, rest, hfilter, hfirsts, hrest⟩ := List.map_eq_append_iff.mp hsplit
  obtain ⟨applied, _, rfl, harguments, -⟩ := List.map_eq_cons_iff.mp hrest
  obtain ⟨front, back, hcapabilities, rfl, hback⟩ := List.filter_eq_append_iff.mp hfilter
  obtain ⟨gap, later, rfl, hgap, hmarker, -⟩ := List.filter_eq_cons_iff.mp hback
  refine ⟨front ++ gap, applied, later, ?_, beq_iff_eq.mp hmarker, harguments, ?_⟩
  · rw [hcapabilities, List.append_assoc]
  · rw [List.filter_append, List.filter_eq_nil_iff.mpr hgap, List.append_nil, hfirsts]

end TypeDecl

/-! ### The words of a complaint -/

/-- What is said of an application that names no hook, at its position. -/
inductive Complains (position : Nat) : List AttributeArgument → String → Prop
  | missing : Complains position [] s!"declaration #{position} is missing its hook type argument"
  | unexpected {found : AttributeArgument} {rest : List AttributeArgument}
      (hfound : ∀ hook, found ≠ .type hook) :
      Complains position (found :: rest)
        s!"declaration #{position} expects a hook type argument, found {found.text}"

theorem complains_of_malformedHook {subject : String} {position : Nat}
    {arguments : List AttributeArgument} (hbad : ¬BeginsWithType arguments) :
    Complains position arguments
      (DescriptorError.malformedHook subject position arguments.head?).detail := by
  cases arguments with
  | nil => exact .missing
  | cons found rest =>
      apply Complains.unexpected
      rintro hook rfl
      exact hbad ⟨hook, rest, rfl⟩

/-! ### The applications of a declaration -/

namespace TypeDescriptor

variable {decl : TypeDecl} {subject : String} {error : DescriptorError}

theorem hooksOf_capabilityArguments_eq_ok_iff {hooks : List TypeHandle} :
    hooksOf subject (decl.capabilityArguments .serializationCallbacks) = .ok hooks ↔
      List.Forall₂ (fun applied hook => NamesHook applied.arguments hook)
        (decl.capabilities.filter fun applied => applied.capability == .serializationCallbacks)
        hooks := by
  rw [hooksOf_eq_ok_iff, TypeDecl.capabilityArguments, List.forall₂_map_left_iff]

/-- The complaint is about the first application of the marker that names no hook, and its position
is the number of applications of the marker before it. -/
theorem exists_first_of_hooksOf_eq_error
    (herror : hooksOf subject (decl.capabilityArguments .serializationCallbacks) = .error error) :
    error.subject = subject ∧ error.kind = .malformedCapability .serializationCallbacks ∧
      ∃ earlier applied later, decl.capabilities = earlier ++ applied :: later ∧
        applied.capability = .serializationCallbacks ∧
        (∀ other ∈ earlier, other.capability = .serializationCallbacks →
          BeginsWithType other.arguments) ∧
        Complains (earlier.countP fun other => other.capability == .serializationCallbacks)
          applied.arguments error.detail := by
  obtain ⟨before, bad, after, hsplit, hbefore, hbad, rfl⟩ := hooksOf_eq_error_iff.mp herror
  obtain ⟨earlier, applied, later, hcapabilities, hmarker, rfl, rfl⟩ :=
    TypeDecl.exists_split_of_capabilityArguments hsplit
  refine ⟨rfl, rfl, earlier, applied, later, hcapabilities, hmarker, ?_, ?_⟩
  · intro other hmem hother
    apply hbefore
    exact List.mem_map_of_mem (List.mem_filter.mpr ⟨hmem, beq_iff_eq.mpr hother⟩)
  · rw [List.countP_eq_length_filter, ← List.length_map (f := CapabilityUse.arguments)]
    exact complains_of_malformedHook hbad

end TypeDescriptor

namespace Program

/-- The hooks of a descriptor are those that the applications of the marker name, one each and in
their order. If an application names none, the first that does not is complained about in place of
a descriptor. -/
theorem hooks_or_first_complaint {history : List Declaration} {program : Program}
    {ty : TypeHandle} (hdeclare : empty.declareAll history = .ok program)
    (hissued : ty.index < program.size)
    (hbase : ∀ decl base, program.decl ty = .ok decl → decl.base = some base →
      base.index < program.size)
    (runtime : RuntimeTypes) (members : List MemberDescriptor) :
    ∃ decl display answer, program.decl ty = .ok decl ∧ program.displayName ty = .ok display ∧
      TypeDescriptor.build program runtime ty members = .ok answer ∧
      ((∃ error, answer = .error error) ↔ ∃ applied ∈ decl.capabilities,
        applied.capability = .serializationCallbacks ∧ ¬BeginsWithType applied.arguments) ∧
      (∀ error, answer = .error error →
        error.subject = display ∧ error.kind = .malformedCapability .serializationCallbacks ∧
        ∃ earlier applied later, decl.capabilities = earlier ++ applied :: later ∧
          applied.capability = .serializationCallbacks ∧
          (∀ other ∈ earlier, other.capability = .serializationCallbacks →
            BeginsWithType other.arguments) ∧
          Complains (earlier.countP fun other => other.capability == .serializationCallbacks)
            applied.arguments error.detail) ∧
      ∀ descriptor, answer = .ok descriptor →
        List.Forall₂ (fun applied hook => NamesHook applied.arguments hook)
          (decl.capabilities.filter fun applied => applied.capability == .serializationCallbacks)
          descriptor.serializationHooks := by
  have hwell := wellFormed_empty.declareAll hdeclare
  obtain ⟨answer, hbuild⟩ := hwell.build_answered hissued hbase runtime members
  obtain ⟨display, decl, hdisplay, hdecl, hhooks, -⟩ := TypeDescriptor.build_eq_ok hbuild
  refine ⟨decl, display, answer, hdecl, hdisplay, hbuild, ?_, ?_, ?_⟩
  · rw [TypeDescriptor.build_eq_error_iff hbuild, HasMalformedHook, hdecl]
    simp only [Except.ok.injEq, exists_eq_left']
  · rintro error rfl
    exact TypeDescriptor.exists_first_of_hooksOf_eq_error hhooks.symm
  · rintro descriptor rfl
    exact TypeDescriptor.hooksOf_capabilityArguments_eq_ok_iff.mp hhooks.symm

namespace Orders

/-- An order with two hooks, and its line, whose second and third application name none. Each has
another marker in between. -/
def history : List Declaration := [
  .type (TypeDecl.ofClass "Audit"),
  .type (TypeDecl.ofClass "Cache"),
  .type (((((TypeDecl.ofClass "Order").inNamespace "App").withCapability
    .serializationCallbacks [.type ⟨0⟩, .string "late"]).withCapability
    .immutable [.null]).withCapability
    .serializationCallbacks [.type ⟨1⟩]),
  .type (((((((TypeDecl.ofClass "Line").nestedIn ⟨2⟩).derivedFrom ⟨0⟩).withCapability
    .serializationCallbacks [.type ⟨0⟩]).withCapability
    .useActivator []).withCapability
    .serializationCallbacks [.integer 7, .type ⟨1⟩]).withCapability
    .serializationCallbacks [])]

def program : Program :=
  (empty.declareAll history).toOption.getD empty

def runtime : RuntimeTypes := ⟨"Generated", "Send", ⟨0⟩, ⟨1⟩⟩

end Orders

theorem hooks_or_first_complaint_of_orders :
    empty.declareAll Orders.history = .ok Orders.program ∧
      (∃ descriptor,
        TypeDescriptor.build Orders.program Orders.runtime ⟨2⟩ [] = .ok (.ok descriptor) ∧
        descriptor.serializationHooks = [⟨0⟩, ⟨1⟩]) ∧
      ∃ error,
        TypeDescriptor.build Orders.program Orders.runtime ⟨3⟩ [] = .ok (.error error) ∧
        error.subject = "App.Order.Line" ∧
        error.kind = .malformedCapability .serializationCallbacks ∧
        error.detail = "declaration #1 expects a hook type argument, found Integer(7)" := by
  have hdeclare : empty.declareAll Orders.history = .ok Orders.program := rfl
  have hbase : ∀ ty : TypeHandle, ty = ⟨2⟩ ∨ ty = ⟨3⟩ → ∀ decl base,
      Orders.program.decl ty = .ok decl → decl.base = some base →
        base.index < Orders.program.size := by
    rintro ty (rfl | rfl) decl base hdecl hderived
    · cases hdecl
      cases hderived
    · cases hdecl
      cases hderived
      decide
  refine ⟨hdeclare, ?_, ?_⟩
  · obtain ⟨decl, display, answer, hdecl, -, hbuild, -, -, hhooks⟩ :=
      hooks_or_first_complaint hdeclare (by decide) (hbase ⟨2⟩ (.inl rfl)) Orders.runtime []
    obtain ⟨descriptor, hdescriptor⟩ : ∃ descriptor,
        TypeDescriptor.build Orders.program Orders.runtime ⟨2⟩ [] = .ok (.ok descriptor) :=
      ⟨_, rfl⟩
    rw [hdescriptor, Except.ok.injEq] at hbuild
    have hnamed := hhooks descriptor hbuild.symm
    refine ⟨descriptor, hdescriptor, ?_⟩
    cases hdecl
    generalize descriptor.serializationHooks = hooks at hnamed ⊢
    obtain _ | ⟨⟨_, hfirst⟩, _ | ⟨⟨_, hsecond⟩, _ | _⟩⟩ := hnamed
    cases hfirst
    cases hsecond
    rfl
  · obtain ⟨decl, display, answer, -, hdisplay, hbuild, -, herror, -⟩ :=
      hooks_or_first_complaint hdeclare (by decide) (hbase ⟨3⟩ (.inr rfl)) Orders.runtime []
    cases hdisplay
    cases hbuild
    obtain ⟨hsubject, hkind, -⟩ := herror _ rfl
    exact ⟨_, rfl, hsubject, hkind, by decide⟩

end Program

end TypeMetadata
