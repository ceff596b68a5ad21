import TypeMetadata.Descriptor.TypeDescriptor
import TypeMetadata.Proofs.Program.Query

/-!
What a descriptor says of a type is what the program answers about it, or follows from the type's
declaration.
-/

namespace TypeMetadata.TypeDescriptor

variable {program : Program} {runtime : RuntimeTypes} {ty : TypeHandle}
  {members : List MemberDescriptor} {descriptor : TypeDescriptor}

structure Describes (program : Program) (runtime : RuntimeTypes) (ty : TypeHandle)
    (descriptor : TypeDescriptor) : Prop where
  display : program.displayName ty = .ok descriptor.display
  scopeName : program.scopeName ty = .ok descriptor.scopeName
  generatedNamespace :
    descriptor.generatedNamespace = runtime.generatedNamespace descriptor.scopeName
  accessibility : program.effectiveAccessibility ty = .ok descriptor.accessibility
  isGeneric : program.isGeneric ty = .ok descriptor.isGeneric

/-- The facts of a descriptor that the declaration decides. Only for the base is another one looked
up. -/
structure FollowsFrom (program : Program) (decl : TypeDecl) (descriptor : TypeDescriptor) :
    Prop where
  baseType : descriptor.baseType = BaseType.ofDecl decl
  isEnum : descriptor.isEnum = descriptor.baseType.isEnumUnderlying
  isValueType : descriptor.isValueType = decl.isValueType
  isSealed : descriptor.isSealed = decl.isSealed
  hasComplexBaseType : hasComplexBase program decl = .ok descriptor.hasComplexBaseType
  isEmptyConstructable :
    descriptor.isEmptyConstructable = allowEmptyConstruction decl.constructors
  useActivator : descriptor.useActivator =
    (decl.hasCapability .useActivator || !descriptor.isEmptyConstructable)
  trackReferences : descriptor.trackReferences =
    (!descriptor.isValueType && !decl.hasCapability .suppressReferenceTracking)
  isImmutable : descriptor.isImmutable =
    (descriptor.isEnum || decl.hasAnyCapability Capability.immutabilityMarkers)

/-- A descriptor is put together from answers of the program, unless its hooks are refused. -/
theorem build_eq_ok {answer : Except DescriptorError TypeDescriptor}
    (hbuild : build program runtime ty members = .ok answer) :
    ∃ display decl, program.displayName ty = .ok display ∧ program.decl ty = .ok decl ∧
      answer.map serializationHooks =
        hooksOf display (decl.capabilityArguments .serializationCallbacks) ∧
      ∀ descriptor, answer = .ok descriptor → descriptor.type = ty ∧
        (∃ parameters, program.typeParameters ty = .ok parameters ∧ descriptor.typeParameters =
          (Identifier.allocateUnique (parameters.map TypeParameter.name)).zip parameters) ∧
        descriptor.Describes program runtime ty ∧ descriptor.FollowsFrom program decl := by
  simp only [build, bind_eq_ok] at hbuild
  obtain ⟨display, hdisplay, decl, hdecl, hanswer⟩ := hbuild
  refine ⟨display, decl, hdisplay, hdecl, ?_⟩
  split at hanswer
  · rename_i error herror
    rw [pure_eq_ok] at hanswer
    subst hanswer
    rw [herror]
    refine ⟨rfl, ?_⟩
    intro descriptor heq
    cases heq
  · rename_i hooks hhooks
    simp only [bind_eq_ok, pure_eq_ok] at hanswer
    obtain ⟨parameters, hparameters, complex, hcomplex, scope, hscope, accessibility,
      haccessibility, generic, hgeneric, rfl⟩ := hanswer
    rw [hhooks]
    refine ⟨rfl, ?_⟩
    intro descriptor heq
    rw [Except.ok.injEq] at heq
    subst heq
    exact ⟨rfl, ⟨parameters, hparameters, rfl⟩,
      ⟨hdisplay, hscope, rfl, haccessibility, hgeneric⟩,
      ⟨rfl, rfl, rfl, rfl, hcomplex, rfl, rfl, rfl, rfl⟩⟩

theorem type_of_build (hbuild : build program runtime ty members = .ok (.ok descriptor)) :
    descriptor.type = ty := by
  obtain ⟨_, _, -, -, -, hparts⟩ := build_eq_ok hbuild
  exact (hparts descriptor rfl).1

theorem typeParameters_of_build
    (hbuild : build program runtime ty members = .ok (.ok descriptor)) :
    ∃ parameters, program.typeParameters ty = .ok parameters ∧ descriptor.typeParameters =
      (Identifier.allocateUnique (parameters.map TypeParameter.name)).zip parameters := by
  obtain ⟨_, _, -, -, -, hparts⟩ := build_eq_ok hbuild
  exact (hparts descriptor rfl).2.1

theorem describes_of_build (hbuild : build program runtime ty members = .ok (.ok descriptor)) :
    descriptor.Describes program runtime ty := by
  obtain ⟨_, _, -, -, -, hparts⟩ := build_eq_ok hbuild
  exact (hparts descriptor rfl).2.2.1

theorem followsFrom_of_build (hbuild : build program runtime ty members = .ok (.ok descriptor)) :
    ∃ decl, program.decl ty = .ok decl ∧ descriptor.FollowsFrom program decl := by
  obtain ⟨_, decl, -, hdecl, -, hparts⟩ := build_eq_ok hbuild
  exact ⟨decl, hdecl, (hparts descriptor rfl).2.2.2⟩

end TypeMetadata.TypeDescriptor
