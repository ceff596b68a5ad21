import TypeMetadata.Proofs.Descriptor.Description
import TypeMetadata.Proofs.Identifier.ClosedForm
import TypeMetadata.Proofs.Program.Extension

/-!
Type parameters of nested types. A type has the parameters of its container and behind them its own,
each known by the type that declares it and its place there. Its descriptor has an identifier for
every one of them, and no two are the same, at whatever depth a name comes up again.
-/

namespace TypeMetadata

/-- The parameters that a type declares itself. -/
def TypeDecl.ownParameters (decl : TypeDecl) (owner : TypeHandle) : List TypeParameter :=
  decl.typeParameters.mapIdx fun ordinal name => ⟨name, owner, ordinal⟩

/-- What tells one type parameter from another. -/
def TypeParameter.slot (parameter : TypeParameter) : TypeHandle × Nat :=
  (parameter.owner, parameter.ordinal)

theorem TypeDecl.owner_of_mem_ownParameters {decl : TypeDecl} {owner : TypeHandle}
    {parameter : TypeParameter} (hparameter : parameter ∈ decl.ownParameters owner) :
    parameter.owner = owner := by
  obtain ⟨ordinal, hordinal, rfl⟩ := List.mem_mapIdx.mp hparameter
  rfl

theorem TypeDecl.nodup_slots_ownParameters (decl : TypeDecl) (owner : TypeHandle) :
    ((decl.ownParameters owner).map TypeParameter.slot).Nodup := by
  rw [ownParameters, List.Nodup, List.pairwise_map, List.pairwise_iff_getElem]
  intro place other hplace hother hlt heq
  rw [List.getElem_mapIdx, List.getElem_mapIdx] at heq
  exact Nat.ne_of_lt hlt (congrArg Prod.snd heq)

namespace Program

variable {program : Program} {ty : TypeHandle} {parameters : List TypeParameter}

theorem typeParameters_cases (hparameters : program.typeParameters ty = .ok parameters) :
    ∃ decl inherited, program.decl ty = .ok decl ∧
      parameters = inherited ++ decl.ownParameters ty ∧
      ((decl.container = none ∧ inherited = []) ∨
        ∃ container, decl.container = some container ∧
          program.typeParameters container = .ok inherited) := by
  simp only [typeParameters, bind_eq_ok, pure_eq_ok] at hparameters ⊢
  obtain ⟨around, haround, rfl⟩ := hparameters
  obtain ⟨decl, hdecl, hcases⟩ := enclosing_cases haround
  have hown : decl.ownParameters ty =
      decl.typeParameters.zipIdx.map fun numbered => ⟨numbered.1, ty, numbered.2⟩ :=
    List.mapIdx_eq_zipIdx_map
  rcases hcases with ⟨hnone, rfl⟩ | ⟨container, outer, hcontainer, houter, rfl⟩
  · refine ⟨decl, [], hdecl, ?_, .inl ⟨hnone, rfl⟩⟩
    rw [hown, List.nil_append]
    exact List.flatMap_singleton _ _
  · refine ⟨decl, _, hdecl, ?_, .inr ⟨container, hcontainer, outer, houter, rfl⟩⟩
    rw [hown, List.reverse_cons, List.flatMap_append, List.flatMap_singleton]

theorem isGeneric_iff {generic : Bool} (hgeneric : program.isGeneric ty = .ok generic)
    (hparameters : program.typeParameters ty = .ok parameters) :
    generic = true ↔ parameters ≠ [] := by
  simp only [isGeneric, typeParameters, bind_eq_ok, pure_eq_ok] at hgeneric hparameters
  obtain ⟨around, haround, rfl⟩ := hgeneric
  obtain ⟨again, hagain, rfl⟩ := hparameters
  rw [haround, Except.ok.injEq] at hagain
  subst hagain
  simp [List.flatMap_eq_nil_iff]

namespace WellFormed

/-- Only the type itself and types that were declared before it own a parameter of it. -/
theorem owner_index_le (hwell : program.WellFormed)
    (hparameters : program.typeParameters ty = .ok parameters) :
    ∀ parameter ∈ parameters, parameter.owner.index ≤ ty.index := by
  induction hindex : ty.index using Nat.strong_induction_on generalizing ty parameters with
  | _ index ih =>
      subst hindex
      obtain ⟨decl, inherited, hdecl, rfl, hinherited⟩ := typeParameters_cases hparameters
      intro parameter hparameter
      rcases List.mem_append.mp hparameter with houter | hown
      · rcases hinherited with ⟨-, rfl⟩ | ⟨container, hcontainer, hinherited⟩
        · cases houter
        · have hlt := hwell.index_lt_of_container hdecl hcontainer
          exact (ih _ hlt hinherited rfl parameter houter).trans hlt.le
      · rw [TypeDecl.owner_of_mem_ownParameters hown]

theorem nodup_slots (hwell : program.WellFormed)
    (hparameters : program.typeParameters ty = .ok parameters) :
    (parameters.map TypeParameter.slot).Nodup := by
  induction hindex : ty.index using Nat.strong_induction_on generalizing ty parameters with
  | _ index ih =>
      subst hindex
      obtain ⟨decl, inherited, hdecl, rfl, ⟨-, rfl⟩ | ⟨container, hcontainer, hinherited⟩⟩ :=
        typeParameters_cases hparameters
      · exact decl.nodup_slots_ownParameters ty
      · have hlt := hwell.index_lt_of_container hdecl hcontainer
        rw [List.map_append, List.nodup_append']
        refine ⟨ih _ hlt hinherited rfl, decl.nodup_slots_ownParameters ty, ?_⟩
        intro slot hfirst hsecond
        obtain ⟨outer, houter, rfl⟩ := List.mem_map.mp hfirst
        obtain ⟨own, hown, heq⟩ := List.mem_map.mp hsecond
        -- The owner of an inherited parameter was declared before the type.
        have howner : own.owner = outer.owner := congrArg Prod.fst heq
        rw [TypeDecl.owner_of_mem_ownParameters hown] at howner
        have hle := hwell.owner_index_le hinherited outer houter
        rw [← howner] at hle
        exact Nat.not_lt_of_le hle hlt

end WellFormed

end Program

/-! ### The parameters of a descriptor -/

namespace TypeDescriptor

theorem map_typeParameters {descriptor : TypeDescriptor} {parameters : List TypeParameter}
    (hpairs : descriptor.typeParameters =
      (Identifier.allocateUnique (parameters.map TypeParameter.name)).zip parameters) :
    descriptor.typeParameters.map Prod.snd = parameters ∧
      descriptor.typeParameters.map Prod.fst =
        Identifier.allocateUnique (parameters.map TypeParameter.name) := by
  have hlength : (Identifier.allocateUnique (parameters.map TypeParameter.name)).length =
      parameters.length := by
    rw [Identifier.length_allocateUnique, List.length_map]
  rw [hpairs]
  exact ⟨List.map_snd_zip hlength.ge, List.map_fst_zip hlength.le⟩

end TypeDescriptor

namespace Program

section

variable {history : List Declaration} {program : Program} {ty : TypeHandle}

/-- The type parameters of a type are those of its container and then its own, and a descriptor
pairs each of them with an identifier. The identifiers all differ, and a plain name has its own
spelling where it comes up first. -/
theorem typeParameters_follow_nesting (hdeclare : empty.declareAll history = .ok program)
    (hissued : ty.index < program.size) :
    ∃ decl inherited parameters generic, program.decl ty = .ok decl ∧
      program.typeParameters ty = .ok parameters ∧ program.isGeneric ty = .ok generic ∧
      parameters = inherited ++ decl.ownParameters ty ∧
      ((decl.container = none ∧ inherited = []) ∨
        ∃ container, decl.container = some container ∧
          program.typeParameters container = .ok inherited) ∧
      (parameters.map TypeParameter.slot).Nodup ∧
      (generic = true ↔ parameters ≠ []) ∧
      ∀ runtime members descriptor,
        TypeDescriptor.build program runtime ty members = .ok (.ok descriptor) →
          descriptor.typeParameters.map Prod.snd = parameters ∧
          descriptor.typeParameters.map Prod.fst =
            Identifier.allocateUnique (parameters.map TypeParameter.name) ∧
          (descriptor.typeParameters.map Prod.fst).Nodup ∧
          ∀ place parameter, parameters[place]? = some parameter →
            parameter.name ∉ (parameters.take place).map TypeParameter.name →
            Identifier.isReserved parameter.name = false →
              descriptor.typeParameters[place]? = some (parameter.name, parameter) := by
  have hwell := wellFormed_empty.declareAll hdeclare
  obtain ⟨parameters, hparameters⟩ := hwell.typeParameters_answered hissued
  obtain ⟨generic, hgeneric⟩ := hwell.isGeneric_answered hissued
  obtain ⟨decl, inherited, hdecl, hsplit, hinherited⟩ := typeParameters_cases hparameters
  refine ⟨decl, inherited, parameters, generic, hdecl, hparameters, hgeneric, hsplit, hinherited,
    hwell.nodup_slots hparameters, isGeneric_iff hgeneric hparameters, ?_⟩
  intro runtime members descriptor hbuild
  obtain ⟨again, hagain, hpairs⟩ := TypeDescriptor.typeParameters_of_build hbuild
  rw [hparameters, Except.ok.injEq] at hagain
  subst hagain
  obtain ⟨hparts, hidents⟩ := TypeDescriptor.map_typeParameters hpairs
  refine ⟨hparts, hidents, ?_, ?_⟩
  · rw [hidents]
    exact Identifier.nodup_allocateUnique _
  · intro place parameter hplace hfirst hplain
    rw [List.map_take] at hfirst
    have hname : (parameters.map TypeParameter.name)[place]? = some parameter.name := by
      rw [List.getElem?_map, hplace, Option.map_some]
    rw [hpairs, List.getElem?_zip_eq_some]
    exact ⟨Identifier.getElem?_allocateUnique_of_first hname hfirst hplain, hplace⟩

end

namespace Shelves

/-- A type without parameters between two types that have some, with one name on both sides. -/
def history : List Declaration := [
  .type (((TypeDecl.ofClass "Shelf").withTypeParameter "T").withTypeParameter "self"),
  .type ((TypeDecl.ofClass "Row").nestedIn ⟨0⟩),
  .type ((((TypeDecl.ofClass "Book").nestedIn ⟨1⟩).withTypeParameter "T").withTypeParameter "U")]

def program : Program :=
  (empty.declareAll history).toOption.getD empty

def parameters : List TypeParameter :=
  [⟨"T", ⟨0⟩, 0⟩, ⟨"self", ⟨0⟩, 1⟩, ⟨"T", ⟨2⟩, 0⟩, ⟨"U", ⟨2⟩, 1⟩]

def runtime : RuntimeTypes := ⟨"Generated", "Send", ⟨0⟩, ⟨1⟩⟩

end Shelves

theorem typeParameters_of_shelves :
    empty.declareAll Shelves.history = .ok Shelves.program ∧
      Shelves.program.typeParameters ⟨2⟩ = .ok Shelves.parameters ∧
      ∃ descriptor,
        TypeDescriptor.build Shelves.program Shelves.runtime ⟨2⟩ [] = .ok (.ok descriptor) ∧
        descriptor.typeParameters.map Prod.snd = Shelves.parameters ∧
        (descriptor.typeParameters.map Prod.fst).Nodup ∧
        descriptor.typeParameters[0]? = some ("T", ⟨"T", ⟨0⟩, 0⟩) ∧
        descriptor.typeParameters[3]? = some ("U", ⟨"U", ⟨2⟩, 1⟩) := by
  have hdeclare : empty.declareAll Shelves.history = .ok Shelves.program := rfl
  have hparameters : Shelves.program.typeParameters ⟨2⟩ = .ok Shelves.parameters := rfl
  have hissued : TypeHandle.index ⟨2⟩ < Shelves.program.size := by decide
  obtain ⟨descriptor, hbuild⟩ : ∃ descriptor,
      TypeDescriptor.build Shelves.program Shelves.runtime ⟨2⟩ [] = .ok (.ok descriptor) :=
    ⟨_, rfl⟩
  obtain ⟨decl, inherited, found, generic, -, hfound, -, -, -, -, -, hdescriptor⟩ :=
    typeParameters_follow_nesting hdeclare hissued
  rw [hparameters, Except.ok.injEq] at hfound
  subst hfound
  obtain ⟨hparts, -, hnodup, hfirst⟩ := hdescriptor _ _ _ hbuild
  refine ⟨hdeclare, hparameters, descriptor, hbuild, hparts, hnodup, ?_, ?_⟩
  · exact hfirst 0 _ rfl (by decide) (by decide +kernel)
  · exact hfirst 3 _ rfl (by decide) (by decide +kernel)

end Program

end TypeMetadata
