import Mathlib.Data.Set.Defs
import TypeMetadata.Proofs.Descriptor.Description
import TypeMetadata.Proofs.Program.Closure

/-!
The facts of a descriptor agree with each other, though each is derived on its own. For an
enumeration that is owed to the way in which declarations are put together: none but an enumeration
gets a type that represents its values, and it gets it together with a seal.
-/

namespace TypeMetadata

/-! ### Declarations step by step -/

/-- What can be added to a declaration. -/
inductive Addition
  | inNamespace (name : String)
  | withAccessibility (accessibility : Accessibility)
  | withSeal
  | withFragments
  | asRootObject
  | nestedIn (container : TypeHandle)
  | derivedFrom (base : TypeHandle)
  | withTypeParameter (name : String)
  | withConstructor (accessibility : Accessibility) (parameterCount : Nat)
  | withCapability (capability : Capability) (arguments : List AttributeArgument)

namespace TypeDecl

variable {decl : TypeDecl}

def extend (decl : TypeDecl) : Addition → TypeDecl
  | .inNamespace name => decl.inNamespace name
  | .withAccessibility accessibility => decl.withAccessibility accessibility
  | .withSeal => decl.withSeal
  | .withFragments => decl.withFragments
  | .asRootObject => decl.asRootObject
  | .nestedIn container => decl.nestedIn container
  | .derivedFrom base => decl.derivedFrom base
  | .withTypeParameter name => decl.withTypeParameter name
  | .withConstructor accessibility parameterCount =>
    decl.withConstructor accessibility parameterCount
  | .withCapability capability arguments => decl.withCapability capability arguments

/-- A declaration that is one of the usual beginnings, or comes from one by additions. -/
inductive Built : TypeDecl → Prop
  | ofKind (name : String) (kind : TypeKind) : Built (.ofKind name kind)
  | ofClass (name : String) : Built (.ofClass name)
  | ofValueType (name : String) : Built (.ofValueType name)
  | ofInterface (name : String) : Built (.ofInterface name)
  | ofEnumeration (name : String) (underlying : TypeHandle) : Built (.ofEnumeration name underlying)
  | extend {decl : TypeDecl} (hbuilt : Built decl) (addition : Addition) :
      Built (decl.extend addition)

theorem kind_extend (decl : TypeDecl) (addition : Addition) :
    (decl.extend addition).kind = decl.kind := by
  cases addition <;> rfl

theorem underlying_extend (decl : TypeDecl) (addition : Addition) :
    (decl.extend addition).underlying = decl.underlying := by
  cases addition <;> rfl

theorem isSealed_extend (hsealed : decl.isSealed = true) (addition : Addition) :
    (decl.extend addition).isSealed = true := by
  cases addition with
  | withSeal => rfl
  | _ => exact hsealed

/-- Only an enumeration has a type that represents its values, and then it is sealed. -/
theorem Built.of_underlying (hbuilt : decl.Built) {underlying : TypeHandle}
    (hunderlying : decl.underlying = some underlying) :
    decl.kind = .enumType ∧ decl.isSealed = true := by
  induction hbuilt with
  | ofKind | ofClass | ofValueType | ofInterface => cases hunderlying
  | ofEnumeration => exact ⟨rfl, rfl⟩
  | extend _ addition ih =>
      rw [underlying_extend] at hunderlying
      obtain ⟨hkind, hsealed⟩ := ih hunderlying
      exact ⟨(kind_extend _ addition).trans hkind, isSealed_extend hsealed addition⟩

/-! ### What a declaration decides -/

/-- The markers on a declaration. It does not count where they stand, how often, and with what
arguments. -/
def markers (decl : TypeDecl) : Set Capability :=
  {marker | ∃ applied ∈ decl.capabilities, applied.capability = marker}

theorem hasCapability_iff {marker : Capability} :
    decl.hasCapability marker = true ↔ marker ∈ decl.markers := by
  rw [hasCapability, List.any_eq_true]
  simp only [beq_iff_eq]
  rfl

theorem hasAnyCapability_immutabilityMarkers_iff :
    decl.hasAnyCapability Capability.immutabilityMarkers = true ↔
      .immutable ∈ decl.markers ∨ .readOnly ∈ decl.markers := by
  simp only [hasAnyCapability, Capability.immutabilityMarkers, List.any_cons, List.any_nil,
    Bool.or_false, Bool.or_eq_true, hasCapability_iff]

end TypeDecl

theorem allowEmptyConstruction_iff {constructors : List Constructor} :
    allowEmptyConstruction constructors = true ↔
      constructors = [] ∨ ∃ constructor ∈ constructors,
        constructor.accessibility = .everyone ∧ constructor.parameterCount = 0 := by
  simp only [allowEmptyConstruction, Bool.or_eq_true, List.isEmpty_iff, List.any_eq_true,
    Bool.and_eq_true, beq_iff_eq, and_comm]

namespace BaseType

theorem isEnumUnderlying_iff {baseType : BaseType} :
    baseType.isEnumUnderlying = true ↔ ∃ underlying, baseType = .enumUnderlying underlying := by
  cases baseType <;> simp [isEnumUnderlying]

theorem underlying_of_ofDecl {decl : TypeDecl} {underlying : TypeHandle}
    (hbase : ofDecl decl = .enumUnderlying underlying) : decl.underlying = some underlying := by
  rw [ofDecl] at hbase
  split at hbase
  · rename_i hunderlying
    rw [enumUnderlying.injEq] at hbase
    rw [hunderlying, hbase]
  · cases hbase
  · cases hbase

end BaseType

namespace TypeDescriptor

variable {program : Program} {decl : TypeDecl} {descriptor : TypeDescriptor}

theorem hasComplexBase_eq_true_iff :
    hasComplexBase program decl = .ok true ↔
      decl.isValueType = false ∧ ∃ base baseDecl, BaseType.ofDecl decl = .declared base ∧
        program.decl base = .ok baseDecl ∧ baseDecl.isRootObject = false := by
  rw [hasComplexBase]
  split
  · rename_i base hvalue hbase
    simp only [bind_eq_ok, pure_eq_ok, Bool.not_eq_true', hvalue, hbase, BaseType.declared.injEq,
      true_and, exists_and_left, exists_eq_left']
  · rename_i hother
    rw [pure_eq_ok]
    constructor
    · intro hfalse
      cases hfalse
    · rintro ⟨hvalue, base, _, hbase, -⟩
      exact (hother base hvalue hbase).elim

/-! ### Descriptors -/

/-- The facts of a descriptor agree with each other. What they leave open is for the constructors
and the markers to decide. -/
structure Coherent (program : Program) (decl : TypeDecl) (descriptor : TypeDescriptor) : Prop where
  isEnum_iff : descriptor.isEnum = true ↔
    ∃ underlying, descriptor.baseType = .enumUnderlying underlying
  of_isEnum : descriptor.isEnum = true →
    descriptor.isValueType = true ∧ descriptor.isSealed = true ∧ descriptor.isImmutable = true
  of_isValueType : descriptor.isValueType = true →
    descriptor.trackReferences = false ∧ descriptor.hasComplexBaseType = false
  hasComplexBaseType_iff : descriptor.hasComplexBaseType = true ↔
    descriptor.isValueType = false ∧ ∃ base baseDecl, descriptor.baseType = .declared base ∧
      program.decl base = .ok baseDecl ∧ baseDecl.isRootObject = false
  of_not_useActivator : descriptor.useActivator = false → descriptor.isEmptyConstructable = true
  isEmptyConstructable_iff : descriptor.isEmptyConstructable = true ↔
    decl.constructors = [] ∨ ∃ constructor ∈ decl.constructors,
      constructor.accessibility = .everyone ∧ constructor.parameterCount = 0
  trackReferences_iff : descriptor.isValueType = false →
    (descriptor.trackReferences = true ↔ .suppressReferenceTracking ∉ decl.markers)
  isImmutable_iff : descriptor.isEnum = false →
    (descriptor.isImmutable = true ↔ .immutable ∈ decl.markers ∨ .readOnly ∈ decl.markers)

theorem FollowsFrom.isEnum_iff (hfollows : descriptor.FollowsFrom program decl) :
    descriptor.isEnum = true ↔
      ∃ underlying, descriptor.baseType = .enumUnderlying underlying := by
  rw [hfollows.isEnum, BaseType.isEnumUnderlying_iff]

theorem FollowsFrom.hasComplexBaseType_iff (hfollows : descriptor.FollowsFrom program decl) :
    descriptor.hasComplexBaseType = true ↔
      descriptor.isValueType = false ∧ ∃ base baseDecl, descriptor.baseType = .declared base ∧
        program.decl base = .ok baseDecl ∧ baseDecl.isRootObject = false := by
  rw [hfollows.isValueType, hfollows.baseType, ← hasComplexBase_eq_true_iff,
    hfollows.hasComplexBaseType, Except.ok.injEq]

theorem FollowsFrom.coherent (hfollows : descriptor.FollowsFrom program decl)
    (hbuilt : decl.Built) : descriptor.Coherent program decl where
  isEnum_iff := hfollows.isEnum_iff
  of_isEnum := by
    intro henum
    obtain ⟨underlying, hbase⟩ := hfollows.isEnum_iff.mp henum
    rw [hfollows.baseType] at hbase
    obtain ⟨hkind, hsealed⟩ := hbuilt.of_underlying (BaseType.underlying_of_ofDecl hbase)
    refine ⟨?_, hfollows.isSealed.trans hsealed, ?_⟩
    · rw [hfollows.isValueType, TypeDecl.isValueType, hkind]
      rfl
    · rw [hfollows.isImmutable, henum, Bool.true_or]
  of_isValueType := by
    intro hvalue
    constructor
    · rw [hfollows.trackReferences, hvalue]
      rfl
    · rw [← Bool.not_eq_true, hfollows.hasComplexBaseType_iff, hvalue]
      simp
  hasComplexBaseType_iff := hfollows.hasComplexBaseType_iff
  of_not_useActivator := by
    intro huse
    rw [hfollows.useActivator, Bool.or_eq_false_iff, Bool.not_eq_false'] at huse
    exact huse.2
  isEmptyConstructable_iff := by
    rw [hfollows.isEmptyConstructable, allowEmptyConstruction_iff]
  trackReferences_iff := by
    intro hreference
    rw [hfollows.trackReferences, hreference, Bool.not_false, Bool.true_and, Bool.not_eq_true',
      ← Bool.not_eq_true, TypeDecl.hasCapability_iff]
  isImmutable_iff := by
    intro henum
    rw [hfollows.isImmutable, henum, Bool.false_or,
      TypeDecl.hasAnyCapability_immutabilityMarkers_iff]

end TypeDescriptor

namespace Program

/-- In a program of declarations that were put together step by step, the facts of every descriptor
agree with each other. -/
theorem descriptors_coherent {history : List Declaration} {program : Program}
    (hdeclare : empty.declareAll history = .ok program)
    (hbuilt : ∀ decl, Declaration.type decl ∈ history → decl.Built) {runtime : RuntimeTypes}
    {ty : TypeHandle} {members : List MemberDescriptor} {descriptor : TypeDescriptor}
    (hbuild : TypeDescriptor.build program runtime ty members = .ok (.ok descriptor)) :
    ∃ decl, program.decl ty = .ok decl ∧ descriptor.Coherent program decl := by
  have hrecorded := recorded_empty.declareAll hdeclare
  obtain ⟨decl, hdecl, hfollows⟩ := TypeDescriptor.followsFrom_of_build hbuild
  exact ⟨decl, hdecl, hfollows.coherent (hbuilt decl (hrecorded.decl_mem ty decl hdecl))⟩

namespace Palette

/-- An enumeration with a base like that of a class and no public constructor, and a class with two
markers, of which one comes twice. -/
def history : List Declaration := [
  .type (TypeDecl.ofClass "Object").asRootObject,
  .type (TypeDecl.ofValueType "Byte"),
  .type (((TypeDecl.ofEnumeration "Color" ⟨1⟩).derivedFrom ⟨3⟩).withConstructor .owner 0),
  .type ((TypeDecl.ofClass "Shape").derivedFrom ⟨0⟩),
  .type (((((TypeDecl.ofClass "Circle").withCapability .readOnly []).derivedFrom ⟨3⟩).withCapability
    .useActivator []).withCapability .readOnly [.null])]

def program : Program :=
  (empty.declareAll history).toOption.getD empty

def runtime : RuntimeTypes := ⟨"Generated", "Send", ⟨0⟩, ⟨1⟩⟩

theorem built_history : ∀ decl, Declaration.type decl ∈ history → decl.Built := by
  intro decl hdecl
  simp only [history, List.mem_cons, Declaration.type.injEq, List.not_mem_nil, or_false] at hdecl
  obtain rfl | rfl | rfl | rfl | rfl := hdecl
  · exact .extend (.ofClass "Object") .asRootObject
  · exact .ofValueType "Byte"
  · exact .extend (.extend (.ofEnumeration "Color" ⟨1⟩) (.derivedFrom ⟨3⟩))
      (.withConstructor .owner 0)
  · exact .extend (.ofClass "Shape") (.derivedFrom ⟨0⟩)
  · exact .extend (.extend (.extend (.extend (.ofClass "Circle") (.withCapability .readOnly []))
      (.derivedFrom ⟨3⟩)) (.withCapability .useActivator [])) (.withCapability .readOnly [.null])

end Palette

theorem descriptors_coherent_of_palette :
    empty.declareAll Palette.history = .ok Palette.program ∧
      (∀ decl, Declaration.type decl ∈ Palette.history → decl.Built) ∧
      (∃ color, TypeDescriptor.build Palette.program Palette.runtime ⟨2⟩ [] = .ok (.ok color) ∧
        color.baseType = .enumUnderlying ⟨1⟩ ∧ color.isSealed = true ∧
        color.isImmutable = true ∧ color.trackReferences = false ∧
        color.hasComplexBaseType = false) ∧
      ∃ circle, TypeDescriptor.build Palette.program Palette.runtime ⟨4⟩ [] = .ok (.ok circle) ∧
        circle.hasComplexBaseType = true ∧ circle.isImmutable = true := by
  have hdeclare : empty.declareAll Palette.history = .ok Palette.program := rfl
  refine ⟨hdeclare, Palette.built_history, ?_, ?_⟩
  · obtain ⟨color, hcolor, hbase⟩ : ∃ color,
        TypeDescriptor.build Palette.program Palette.runtime ⟨2⟩ [] = .ok (.ok color) ∧
          color.baseType = .enumUnderlying ⟨1⟩ := ⟨_, rfl, rfl⟩
    obtain ⟨decl, -, hcoherent⟩ := descriptors_coherent hdeclare Palette.built_history hcolor
    have henum := hcoherent.isEnum_iff.mpr ⟨_, hbase⟩
    obtain ⟨hvalue, hsealed, himmutable⟩ := hcoherent.of_isEnum henum
    obtain ⟨htrack, hcomplex⟩ := hcoherent.of_isValueType hvalue
    exact ⟨color, hcolor, hbase, hsealed, himmutable, htrack, hcomplex⟩
  · obtain ⟨circle, hcircle, hvalue, henum, hbase⟩ : ∃ circle,
        TypeDescriptor.build Palette.program Palette.runtime ⟨4⟩ [] = .ok (.ok circle) ∧
          circle.isValueType = false ∧ circle.isEnum = false ∧ circle.baseType = .declared ⟨3⟩ :=
      ⟨_, rfl, rfl, rfl, rfl⟩
    obtain ⟨decl, hdecl, hcoherent⟩ := descriptors_coherent hdeclare Palette.built_history hcircle
    refine ⟨circle, hcircle, ?_, ?_⟩
    · exact hcoherent.hasComplexBaseType_iff.mpr ⟨hvalue, ⟨3⟩, _, hbase, rfl, rfl⟩
    · cases hdecl
      exact (hcoherent.isImmutable_iff henum).mpr (.inr ⟨_, List.mem_cons_self, rfl⟩)

end Program

end TypeMetadata
