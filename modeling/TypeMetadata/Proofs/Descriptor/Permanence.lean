import TypeMetadata.Descriptor.TypeDescriptor
import TypeMetadata.Proofs.Program.Extension

/-!
What is declared stays as it was declared. Whatever types and members are declared afterwards,
every fact about a type, its descriptor included, stays the same, and members are only added.
-/

namespace TypeMetadata

theorem BaseType.base_of_ofDecl {decl : TypeDecl} {base : TypeHandle}
    (hbase : BaseType.ofDecl decl = .declared base) : decl.base = some base := by
  rw [BaseType.ofDecl] at hbase
  split at hbase
  · cases hbase
  · rename_i hdeclared
    rw [BaseType.declared.injEq] at hbase
    rw [hdeclared, hbase]
  · cases hbase

namespace Program

variable {program earlier later : Program} {ty : TypeHandle}

/-! ### Descriptors -/

theorem hasComplexBase_answered {decl : TypeDecl}
    (hbase : ∀ base, decl.base = some base → base.index < program.size) :
    Answered (TypeDescriptor.hasComplexBase program decl) := by
  rw [TypeDescriptor.hasComplexBase]
  split
  · rename_i base _ hdeclared
    apply (decl_answered (hbase base (BaseType.base_of_ofDecl hdeclared))).bind
    intro baseDecl _
    exact answered_pure _
  · exact answered_pure _

theorem WellFormed.build_answered (hwell : program.WellFormed) (hissued : ty.index < program.size)
    (hbase : ∀ decl base, program.decl ty = .ok decl → decl.base = some base →
      base.index < program.size)
    (runtime : RuntimeTypes) (members : List MemberDescriptor) :
    Answered (TypeDescriptor.build program runtime ty members) := by
  rw [TypeDescriptor.build]
  apply (hwell.displayName_answered hissued).bind
  intro display _
  apply (decl_answered hissued).bind
  intro decl hdecl
  cases TypeDescriptor.hooksOf display (decl.capabilityArguments .serializationCallbacks) with
  | error error => exact answered_pure _
  | ok hooks =>
      apply (hwell.typeParameters_answered hissued).bind
      intro parameters _
      apply (hasComplexBase_answered fun base => hbase decl base hdecl).bind
      intro hasComplexBase _
      apply (hwell.scopeName_answered hissued).bind
      intro scope _
      apply (hwell.effectiveAccessibility_answered hissued).bind
      intro accessibility _
      apply (hwell.isGeneric_answered hissued).bind
      intro isGeneric _
      exact answered_pure _

namespace Extends

theorem hasComplexBase (hextends : earlier.Extends later) (decl : TypeDecl) :
    Persists (TypeDescriptor.hasComplexBase earlier decl)
      (TypeDescriptor.hasComplexBase later decl) := by
  rw [TypeDescriptor.hasComplexBase, TypeDescriptor.hasComplexBase]
  split
  · rename_i base _ _
    exact (hextends.decl base).bind fun _ => .refl _
  · exact .refl _

theorem build (hextends : earlier.Extends later) (runtime : RuntimeTypes) (ty : TypeHandle)
    (members : List MemberDescriptor) :
    Persists (TypeDescriptor.build earlier runtime ty members)
      (TypeDescriptor.build later runtime ty members) := by
  rw [TypeDescriptor.build, TypeDescriptor.build]
  apply (hextends.displayName ty).bind
  intro display
  apply (hextends.decl ty).bind
  intro decl
  cases TypeDescriptor.hooksOf display (decl.capabilityArguments .serializationCallbacks) with
  | error error => exact .refl _
  | ok hooks =>
      apply (hextends.typeParameters ty).bind
      intro parameters
      apply (hextends.hasComplexBase decl).bind
      intro hasComplexBase
      apply (hextends.scopeName ty).bind
      intro scope
      apply (hextends.effectiveAccessibility ty).bind
      intro accessibility
      apply (hextends.isGeneric ty).bind
      intro isGeneric
      exact .refl _

/-! ### Proxy bases -/

theorem checkProxyBase (hextends : earlier.Extends later) {runtime : RuntimeTypes}
    (haccepted : earlier.checkProxyBase runtime ty = .ok (.ok ()))
    (hanswered : Answered (later.membersOf ty)) :
    later.checkProxyBase runtime ty = .ok (.ok ()) := by
  rw [checkProxyBase_accepts_iff] at haccepted ⊢
  obtain ⟨before, hbefore, hnone⟩ := haccepted
  obtain ⟨more, hafter⟩ := hextends.membersNamed hbefore hanswered
  exact ⟨before ++ more, hafter, hextends.rejectedMembers? hnone more⟩

end Extends

/-! ### All that is known of a type -/

/-- Two programs give the same answers about a type, its members aside. -/
structure Agree (first second : Program) (ty : TypeHandle) : Prop where
  decl : SameAnswer (first.decl ty) (second.decl ty)
  nestingPath : SameAnswer (first.nestingPath ty) (second.nestingPath ty)
  scopeName : SameAnswer (first.scopeName ty) (second.scopeName ty)
  qualifiedName : SameAnswer (first.qualifiedName ty) (second.qualifiedName ty)
  displayName : SameAnswer (first.displayName ty) (second.displayName ty)
  typeParameters : SameAnswer (first.typeParameters ty) (second.typeParameters ty)
  isGeneric : SameAnswer (first.isGeneric ty) (second.isGeneric ty)
  effectiveAccessibility :
    SameAnswer (first.effectiveAccessibility ty) (second.effectiveAccessibility ty)

theorem WellFormed.agree (hwell : earlier.WellFormed) (hextends : earlier.Extends later)
    (hissued : ty.index < earlier.size) : earlier.Agree later ty where
  decl := (decl_answered hissued).sameAnswer (hextends.decl ty)
  nestingPath := (hwell.nestingPath_answered hissued).sameAnswer (hextends.nestingPath ty)
  scopeName := (hwell.scopeName_answered hissued).sameAnswer (hextends.scopeName ty)
  qualifiedName := (hwell.qualifiedName_answered hissued).sameAnswer (hextends.qualifiedName ty)
  displayName := (hwell.displayName_answered hissued).sameAnswer (hextends.displayName ty)
  typeParameters := (hwell.typeParameters_answered hissued).sameAnswer (hextends.typeParameters ty)
  isGeneric := (hwell.isGeneric_answered hissued).sameAnswer (hextends.isGeneric ty)
  effectiveAccessibility :=
    (hwell.effectiveAccessibility_answered hissued).sameAnswer (hextends.effectiveAccessibility ty)

/-- Later declarations change nothing about a type that is there already but for adding members
behind those it has, so a proxy base that was accepted stays accepted. -/
theorem declared_type_stays {history additions : List Declaration}
    (hearlier : empty.declareAll history = .ok earlier)
    (hlater : earlier.declareAll additions = .ok later) (hissued : ty.index < earlier.size)
    (hbase : ∀ decl base, earlier.decl ty = .ok decl → decl.base = some base →
      base.index < earlier.size) :
    earlier.Agree later ty ∧
      (∀ runtime members, SameAnswer (TypeDescriptor.build earlier runtime ty members)
        (TypeDescriptor.build later runtime ty members)) ∧
      (∀ name, ∃ before more, earlier.membersNamed ty name = .ok before ∧
        later.membersNamed ty name = .ok (before ++ more)) ∧
      ∀ runtime, earlier.checkProxyBase runtime ty = .ok (.ok ()) →
        later.checkProxyBase runtime ty = .ok (.ok ()) := by
  have hwell := wellFormed_empty.declareAll hearlier
  have hextends := extends_declareAll hlater
  have hmembers : Answered (later.membersOf ty) :=
    (hwell.declareAll hlater).membersOf_answered (Nat.lt_of_lt_of_le hissued hextends.size_le)
  refine ⟨hwell.agree hextends hissued, ?_, ?_, ?_⟩
  · intro runtime members
    exact (hwell.build_answered hissued hbase runtime members).sameAnswer
      (hextends.build runtime ty members)
  · intro name
    obtain ⟨before, hbefore⟩ := hwell.membersNamed_answered hissued name
    obtain ⟨more, hmore⟩ := hextends.membersNamed hbefore hmembers
    exact ⟨before, more, hbefore, hmore⟩
  · intro runtime haccepted
    exact hextends.checkProxyBase haccepted hmembers

/-! ### A program before and after -/

namespace Shop

/-- A cart that stands in a shop and derives from the root, with a field and the entry point under
one name. -/
def history : List Declaration := [
  .type (TypeDecl.ofClass "Object").asRootObject,
  .type ((TypeDecl.ofClass "Shop").inNamespace "App"),
  .type (((TypeDecl.ofClass "Cart").nestedIn ⟨1⟩).derivedFrom ⟨0⟩),
  .member ⟨2⟩ ⟨"Send", .field ⟨0⟩⟩,
  .member ⟨2⟩ ⟨"Send", .method ⟨[], [⟨0⟩, ⟨1⟩], none⟩⟩]

/-- A type of the same qualified name, a type that stands in the cart, and another member. -/
def additions : List Declaration := [
  .type ((TypeDecl.ofClass "Cart").inNamespace "App.Shop"),
  .type ((TypeDecl.ofClass "Line").nestedIn ⟨2⟩),
  .member ⟨2⟩ ⟨"Send", .property ⟨3⟩⟩]

def before : Program :=
  (empty.declareAll history).toOption.getD empty

def after : Program :=
  (before.declareAll additions).toOption.getD before

def runtime : RuntimeTypes := ⟨"Generated", "Send", ⟨0⟩, ⟨1⟩⟩

end Shop

theorem declared_type_stays_of_cart :
    empty.declareAll Shop.history = .ok Shop.before ∧
      Shop.before.declareAll Shop.additions = .ok Shop.after ∧
      Shop.before.Agree Shop.after ⟨2⟩ ∧
      Shop.after.checkProxyBase Shop.runtime ⟨2⟩ = .ok (.ok ()) := by
  have hearlier : empty.declareAll Shop.history = .ok Shop.before := rfl
  have hlater : Shop.before.declareAll Shop.additions = .ok Shop.after := rfl
  have haccepted : Shop.before.checkProxyBase Shop.runtime ⟨2⟩ = .ok (.ok ()) := rfl
  have hbase : ∀ decl base, Shop.before.decl ⟨2⟩ = .ok decl → decl.base = some base →
      base.index < Shop.before.size := by
    intro decl base hdecl hderived
    have hcart : Shop.before.decl ⟨2⟩ =
        .ok (((TypeDecl.ofClass "Cart").nestedIn ⟨1⟩).derivedFrom ⟨0⟩) := rfl
    rw [hcart, Except.ok.injEq] at hdecl
    subst hdecl
    cases hderived
    decide
  obtain ⟨hagree, -, -, hstays⟩ := declared_type_stays hearlier hlater (by decide) hbase
  exact ⟨hearlier, hlater, hagree, hstays Shop.runtime haccepted⟩

end Program

end TypeMetadata
