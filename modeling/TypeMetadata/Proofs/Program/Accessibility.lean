import Mathlib.Logic.Relation
import Mathlib.Order.Bounds.Basic
import TypeMetadata.Proofs.Descriptor.Description
import TypeMetadata.Proofs.Program.WellFormed

/-!
Who may see a nested type. A type shows itself to no one who cannot see all the types around it, so
what counts is the least accessibility that is declared on the way out.
-/

namespace TypeMetadata

/-! ### The order of accessibilities -/

namespace Accessibility

/-- All accessibilities, from the most to the least restrictive. -/
def levels : List Accessibility :=
  [owner, derivedAndAssembly, derived, assembly, derivedOrAssembly, everyone]

theorem mem_levels (level : Accessibility) : level ∈ levels := by
  cases level <;> decide

theorem rank_inj {first second : Accessibility} (heq : first.rank = second.rank) :
    first = second := by
  cases first <;> cases second <;> first | rfl | cases heq

instance : LinearOrder Accessibility where
  le_refl level := Nat.le_refl level.rank
  le_trans _ _ _ := Nat.le_trans
  lt_iff_le_not_ge _ _ := Nat.lt_iff_le_and_not_ge
  le_antisymm _ _ hle hge := rank_inj (Nat.le_antisymm hle hge)
  le_total first second := Nat.le_total first.rank second.rank
  toDecidableLE := inferInstance

theorem le_everyone (level : Accessibility) : level ≤ everyone := by
  cases level <;> decide

theorem restrict_eq_min (first second : Accessibility) :
    first.restrict second = min first second :=
  rfl

theorem isLeast_foldl_restrict {among : List Accessibility} (hne : among ≠ []) :
    IsLeast {level | level ∈ among} (among.foldl restrict everyone) := by
  obtain ⟨first, others, rfl⟩ := List.exists_cons_of_ne_nil hne
  have hfirst : everyone.restrict first = first := by
    rw [restrict_eq_min, min_eq_right (le_everyone first)]
  have hmin : (first :: others).min? = some ((first :: others).foldl restrict everyone) := by
    rw [List.min?_cons', List.foldl_cons, hfirst]
    rfl
  exact List.min?_eq_some_iff.mp hmin

end Accessibility

/-! ### The types around a type -/

namespace Program

section

variable {history : List Declaration} {program : Program}
variable {outer ty container : TypeHandle} {decl : TypeDecl}

def Contains (program : Program) (container ty : TypeHandle) : Prop :=
  ∃ decl, program.decl ty = .ok decl ∧ decl.container = some container

/-- A type encloses itself and the types that stand in it, at any depth. -/
def Encloses (program : Program) : TypeHandle → TypeHandle → Prop :=
  Relation.ReflTransGen program.Contains

theorem contains_iff (hdecl : program.decl ty = .ok decl) :
    program.Contains container ty ↔ decl.container = some container := by
  simp [Contains, hdecl]

theorem encloses_iff_eq (hdecl : program.decl ty = .ok decl) (houtermost : decl.container = none) :
    program.Encloses outer ty ↔ outer = ty := by
  rw [Encloses, Relation.ReflTransGen.cases_tail_iff]
  simp [contains_iff hdecl, houtermost, eq_comm]

theorem encloses_iff_eq_or (hdecl : program.decl ty = .ok decl)
    (hcontainer : decl.container = some container) :
    program.Encloses outer ty ↔ outer = ty ∨ program.Encloses outer container := by
  rw [Encloses, Relation.ReflTransGen.cases_tail_iff]
  simp [contains_iff hdecl, hcontainer, eq_comm]

theorem WellFormed.index_le_of_encloses (hwell : program.WellFormed)
    (hencloses : program.Encloses outer ty) : outer.index ≤ ty.index := by
  induction hencloses with
  | refl => exact Nat.le_refl _
  | tail _ hcontains ih =>
      obtain ⟨decl, hdecl, hcontainer⟩ := hcontains
      exact ih.trans (hwell.index_lt_of_container hdecl hcontainer).le

theorem mk_eq_iff_of_decl {own : TypeDecl} (hown : program.decl ty = .ok own) :
    (outer, decl) = (ty, own) ↔ outer = ty ∧ program.decl outer = .ok decl := by
  rw [Prod.mk.injEq]
  apply and_congr_right
  rintro rfl
  rw [hown, Except.ok.injEq, eq_comm]

/-- The walk comes to the types that enclose the one where it begins, and to no others. -/
theorem Walks.mem_iff {around : List (TypeHandle × TypeDecl)} (hwalk : program.Walks ty around) :
    (outer, decl) ∈ around ↔ program.Encloses outer ty ∧ program.decl outer = .ok decl := by
  induction hwalk with
  | outermost hown houtermost =>
      rw [encloses_iff_eq hown houtermost, List.mem_singleton, mk_eq_iff_of_decl hown]
  | nested hown hcontainer _ ih =>
      rw [encloses_iff_eq_or hown hcontainer, List.mem_cons, mk_eq_iff_of_decl hown, ih,
        or_and_right]

/-! ### What they declare -/

/-- The accessibilities that a type and the types around it are declared with. -/
def declaredAround (program : Program) (ty : TypeHandle) : Set Accessibility :=
  {level | ∃ outer decl, program.Encloses outer ty ∧ program.decl outer = .ok decl ∧
    decl.accessibility = level}

theorem declaredAround_outermost (hdecl : program.decl ty = .ok decl)
    (houtermost : decl.container = none) : program.declaredAround ty = {decl.accessibility} := by
  ext level
  simp [declaredAround, encloses_iff_eq hdecl houtermost, hdecl, eq_comm]

theorem declaredAround_nested (hdecl : program.decl ty = .ok decl)
    (hcontainer : decl.container = some container) :
    program.declaredAround ty = insert decl.accessibility (program.declaredAround container) := by
  ext level
  simp [declaredAround, encloses_iff_eq_or hdecl hcontainer, or_and_right, exists_or, hdecl,
    eq_comm]

theorem declaredAround_subset (hencloses : program.Encloses outer ty) :
    program.declaredAround outer ⊆ program.declaredAround ty := by
  rintro level ⟨further, decl, hfurther, hdecl⟩
  exact ⟨further, decl, hfurther.trans hencloses, hdecl⟩

theorem isLeast_effectiveAccessibility {level : Accessibility}
    (hlevel : program.effectiveAccessibility ty = .ok level) :
    IsLeast (program.declaredAround ty) level := by
  rw [effectiveAccessibility, bind_eq_ok] at hlevel
  obtain ⟨around, haround, hlevel⟩ := hlevel
  rw [pure_eq_ok] at hlevel
  have hwalk := (enclosing_eq_ok_iff.mp haround).1
  have hset : program.declaredAround ty =
      {level | level ∈ around.map fun slot => slot.2.accessibility} := by
    ext level
    simp only [declaredAround, Set.mem_ofPred_eq, List.mem_map, Prod.exists,
      hwalk.mem_iff, and_assoc]
  rw [hset, ← hlevel]
  exact Accessibility.isLeast_foldl_restrict (mt List.map_eq_nil_iff.mp hwalk.ne_nil)

theorem effectiveAccessibility_nested {level outerLevel : Accessibility}
    (hdecl : program.decl ty = .ok decl) (hcontainer : decl.container = some container)
    (hlevel : program.effectiveAccessibility ty = .ok level)
    (houter : program.effectiveAccessibility container = .ok outerLevel) :
    level = decl.accessibility.restrict outerLevel := by
  have hleast := isLeast_effectiveAccessibility hlevel
  rw [declaredAround_nested hdecl hcontainer] at hleast
  exact hleast.unique ((isLeast_effectiveAccessibility houter).insert decl.accessibility)

theorem effectiveAccessibility_le_of_encloses {level outerLevel : Accessibility}
    (hencloses : program.Encloses outer ty)
    (hlevel : program.effectiveAccessibility ty = .ok level)
    (houter : program.effectiveAccessibility outer = .ok outerLevel) : level ≤ outerLevel :=
  (isLeast_effectiveAccessibility houter).mono (isLeast_effectiveAccessibility hlevel)
    (declaredAround_subset hencloses)

/-- The effective accessibility of a type is the least that the type and the types around it are
declared with, and no type is seen further than one that encloses it. -/
theorem effectiveAccessibility_least (hdeclare : empty.declareAll history = .ok program)
    (hissued : ty.index < program.size) :
    ((∀ level, level ∈ Accessibility.levels) ∧ Accessibility.levels.Pairwise (· < ·) ∧
        Accessibility.levels.map Accessibility.text = ["private", "private protected",
          "protected", "internal", "protected internal", "public"]) ∧
      ∃ decl level, program.decl ty = .ok decl ∧ program.effectiveAccessibility ty = .ok level ∧
        IsLeast (program.declaredAround ty) level ∧
        (decl.container = none → level = decl.accessibility) ∧
        (∀ container, decl.container = some container →
          ∃ outerLevel, program.effectiveAccessibility container = .ok outerLevel ∧
            level = decl.accessibility.restrict outerLevel) ∧
        (∀ outer, program.Encloses outer ty →
          ∃ outerLevel, program.effectiveAccessibility outer = .ok outerLevel ∧
            level ≤ outerLevel) ∧
        ∀ runtime members descriptor,
          TypeDescriptor.build program runtime ty members = .ok (.ok descriptor) →
            descriptor.accessibility = level := by
  have hwell := wellFormed_empty.declareAll hdeclare
  have hanswered : ∀ {outer}, program.Encloses outer ty →
      Answered (program.effectiveAccessibility outer) := fun hencloses =>
    hwell.effectiveAccessibility_answered ((hwell.index_le_of_encloses hencloses).trans_lt hissued)
  obtain ⟨decl, hdecl⟩ := decl_answered hissued
  obtain ⟨level, hlevel⟩ := hwell.effectiveAccessibility_answered hissued
  have hleast := isLeast_effectiveAccessibility hlevel
  refine ⟨⟨Accessibility.mem_levels, by decide, rfl⟩, decl, level, hdecl, hlevel, hleast, ?_, ?_,
    ?_, ?_⟩
  · intro houtermost
    rw [declaredAround_outermost hdecl houtermost] at hleast
    exact hleast.unique isLeast_singleton
  · intro container hcontainer
    obtain ⟨outerLevel, houter⟩ := hanswered (.single ⟨decl, hdecl, hcontainer⟩)
    exact ⟨outerLevel, houter, effectiveAccessibility_nested hdecl hcontainer hlevel houter⟩
  · intro outer hencloses
    obtain ⟨outerLevel, houter⟩ := hanswered hencloses
    exact ⟨outerLevel, houter, effectiveAccessibility_le_of_encloses hencloses hlevel houter⟩
  · intro runtime members descriptor hbuild
    have hdescribed := (TypeDescriptor.describes_of_build hbuild).accessibility
    rw [hlevel, Except.ok.injEq] at hdescribed
    exact hdescribed.symm

end

namespace Nest

/-- The most open type is in the middle and the least open one is neither first nor last. -/
def history : List Declaration := [
  .type ((TypeDecl.ofClass "Vault").withAccessibility .assembly),
  .type (((TypeDecl.ofClass "Room").withAccessibility .derived).nestedIn ⟨0⟩),
  .type ((TypeDecl.ofClass "Shelf").nestedIn ⟨1⟩),
  .type (((TypeDecl.ofClass "Box").withAccessibility .derivedOrAssembly).nestedIn ⟨2⟩)]

def program : Program :=
  (empty.declareAll history).toOption.getD empty

end Nest

theorem effectiveAccessibility_of_nest :
    empty.declareAll Nest.history = .ok Nest.program ∧
      Nest.program.effectiveAccessibility ⟨3⟩ = .ok .derived ∧
      IsLeast (Nest.program.declaredAround ⟨3⟩) .derived ∧
      ∃ outerLevel, Nest.program.effectiveAccessibility ⟨2⟩ = .ok outerLevel ∧
        Accessibility.derived = Accessibility.derivedOrAssembly.restrict outerLevel := by
  have hdeclare : empty.declareAll Nest.history = .ok Nest.program := rfl
  have hlevel : Nest.program.effectiveAccessibility ⟨3⟩ = .ok .derived := rfl
  have hissued : TypeHandle.index ⟨3⟩ < Nest.program.size := by decide
  obtain ⟨-, decl, level, hdecl, hfound, hleast, -, hnested, -⟩ :=
    effectiveAccessibility_least hdeclare hissued
  rw [hlevel, Except.ok.injEq] at hfound
  subst hfound
  cases hdecl
  exact ⟨hdeclare, hlevel, hleast, hnested ⟨2⟩ rfl⟩

end Program

end TypeMetadata
