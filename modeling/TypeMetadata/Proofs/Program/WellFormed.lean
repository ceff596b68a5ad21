import TypeMetadata.Descriptor.TypeDescriptor
import TypeMetadata.Proofs.Program.Declaring
import TypeMetadata.Proofs.Program.Walk

/-!
A program that was put together by declarations is well formed: a type stands in types that were
declared before it, and the members of a type are in the table. So walks outwards end, and every
question about a declared type has an answer.
-/

namespace TypeMetadata.Program

variable {program next : Program} {ty : TypeHandle}

structure WellFormed (program : Program) : Prop where
  container_lt : ∀ ty entry container, program.entry ty = .ok entry →
    entry.decl.container = some container → container.index < ty.index
  member_lt : ∀ ty entry, program.entry ty = .ok entry → ∀ handle ∈ entry.members,
    handle.index < program.members.size

/-! ### The walk outwards -/

theorem decl_eq_ok {decl : TypeDecl} :
    program.decl ty = .ok decl ↔ ∃ entry, program.entry ty = .ok entry ∧ entry.decl = decl := by
  rw [Program.decl, bind_eq_ok]
  simp only [pure_eq_ok]

theorem index_lt_size_of_decl {decl : TypeDecl} (hdecl : program.decl ty = .ok decl) :
    ty.index < program.size := by
  obtain ⟨entry, hentry, -⟩ := decl_eq_ok.mp hdecl
  exact index_lt_size hentry

theorem Walks.index_lt_size {around : List (TypeHandle × TypeDecl)}
    (hwalk : program.Walks ty around) : ty.index < program.size := by
  cases hwalk with
  | outermost hdecl _ => exact index_lt_size_of_decl hdecl
  | nested hdecl _ _ => exact index_lt_size_of_decl hdecl

theorem walks_of_qualifiedName {name : String} (hname : program.qualifiedName ty = .ok name) :
    ∃ around, program.Walks ty around := by
  rw [qualifiedName, bind_eq_ok] at hname
  obtain ⟨scope, hscope, -⟩ := hname
  rw [scopeName, bind_eq_ok] at hscope
  obtain ⟨around, haround, -⟩ := hscope
  exact ⟨around, (enclosing_eq_ok_iff.mp haround).1⟩

/-- The name of the last type could only be found because its container is an earlier one. -/
theorem container_lt_of_qualifiedName {decl : TypeDecl} {name : String} {container : TypeHandle}
    (hlast : program.size = ty.index + 1) (hname : program.qualifiedName ty = .ok name)
    (hdecl : program.decl ty = .ok decl) (hcontainer : decl.container = some container) :
    container.index < ty.index := by
  obtain ⟨around, hwalk⟩ := walks_of_qualifiedName hname
  obtain ⟨outer, houter⟩ := hwalk.exists_outer hdecl hcontainer
  have hlt := houter.index_lt_size
  have hne : container.index ≠ ty.index := by
    intro heq
    rw [TypeHandle.index_inj heq] at hcontainer
    exact hwalk.container_ne_self hdecl hcontainer
  omega

/-! ### Declarations keep programs well formed -/

theorem wellFormed_empty : empty.WellFormed where
  container_lt ty entry container hentry := by
    rw [entry_eq_ok] at hentry
    cases hentry
  member_lt ty entry hentry := by
    rw [entry_eq_ok] at hentry
    cases hentry

theorem WellFormed.withType {decl : TypeDecl} {name : String} (hwell : program.WellFormed)
    (hname : (program.withType decl).qualifiedName (.ofIndex program.size) = .ok name) :
    (program.withType decl).WellFormed where
  container_lt := by
    intro ty entry container hentry hcontainer
    rcases entry_withType.mp hentry with hold | ⟨hnew, rfl⟩
    · exact hwell.container_lt ty entry container hold hcontainer
    · rw [← hnew, TypeHandle.ofIndex_index] at hname
      apply container_lt_of_qualifiedName _ hname _ hcontainer
      · rw [hnew]
        exact Array.size_push _
      · exact decl_eq_ok.mpr ⟨_, hentry, rfl⟩
  member_lt := by
    intro ty entry hentry handle hhandle
    rcases entry_withType.mp hentry with hold | ⟨-, rfl⟩
    · exact hwell.member_lt ty entry hold handle hhandle
    · cases hhandle

theorem WellFormed.withMember {owner : TypeHandle} {found : TypeEntry} (hwell : program.WellFormed)
    (hfound : program.entry owner = .ok found) (member : Member) :
    (program.withMember owner found member).WellFormed where
  container_lt := by
    intro ty entry container hentry hcontainer
    rcases (entry_withMember hfound).mp hentry with ⟨rfl, rfl⟩ | ⟨-, hold⟩
    · exact hwell.container_lt ty found container hfound hcontainer
    · exact hwell.container_lt ty entry container hold hcontainer
  member_lt := by
    intro ty entry hentry handle hhandle
    have hsize : (program.withMember owner found member).members.size =
        program.members.size + 1 := Array.size_push _
    rw [hsize, Nat.lt_succ_iff]
    rcases (entry_withMember hfound).mp hentry with ⟨rfl, rfl⟩ | ⟨-, hold⟩
    · rcases List.mem_append.mp hhandle with hearlier | hlast
      · exact Nat.le_of_lt (hwell.member_lt ty found hfound handle hearlier)
      · rw [List.mem_singleton.mp hlast]
        exact MemberHandle.index_ofIndex_le _
    · exact Nat.le_of_lt (hwell.member_lt ty entry hold handle hhandle)

theorem WellFormed.add {declaration : Declaration} (hwell : program.WellFormed)
    (hadd : program.add declaration = .ok next) : next.WellFormed := by
  rcases add_cases hadd with ⟨decl, name, -, hname, rfl⟩ | ⟨owner, member, found, -, hfound, rfl⟩
  · -- The table of names plays no part in being well formed.
    obtain ⟨hcontainer, hmember⟩ := hwell.withType hname
    exact ⟨hcontainer, hmember⟩
  · exact hwell.withMember hfound member

theorem WellFormed.declareAll {declarations : List Declaration} (hwell : program.WellFormed)
    (hdeclare : program.declareAll declarations = .ok next) : next.WellFormed :=
  declareAll_induction hwell (fun _ _ _ hbefore hadd => hbefore.add hadd) hdeclare

theorem WellFormed.index_lt_of_container {decl : TypeDecl} {container : TypeHandle}
    (hwell : program.WellFormed) (hdecl : program.decl ty = .ok decl)
    (hcontainer : decl.container = some container) : container.index < ty.index := by
  obtain ⟨entry, hentry, rfl⟩ := decl_eq_ok.mp hdecl
  exact hwell.container_lt ty entry container hentry hcontainer

/-! ### Questions about declared types -/

theorem entry_answered (hissued : ty.index < program.size) : Answered (program.entry ty) :=
  ⟨_, entry_eq_ok.mpr (Array.getElem?_eq_getElem hissued)⟩

theorem decl_answered (hissued : ty.index < program.size) : Answered (program.decl ty) := by
  apply (entry_answered hissued).bind
  intro entry _
  exact answered_pure _

namespace WellFormed

/-- A type has no more types around it than were declared before it. -/
theorem exists_walks (hwell : program.WellFormed) (hissued : ty.index < program.size) :
    ∃ around, program.Walks ty around ∧ around.length ≤ ty.index + 1 := by
  induction hindex : ty.index using Nat.strongRecOn generalizing ty with
  | ind index ih =>
      subst hindex
      obtain ⟨decl, hdecl⟩ := decl_answered hissued
      cases hcontainer : decl.container with
      | none => exact ⟨_, .outermost hdecl hcontainer, Nat.succ_pos _⟩
      | some container =>
          have hlt := hwell.index_lt_of_container hdecl hcontainer
          obtain ⟨outer, hwalk, hlength⟩ := ih container.index hlt (Nat.lt_trans hlt hissued) rfl
          exact ⟨_, .nested hdecl hcontainer hwalk, Nat.succ_le_succ (Nat.le_trans hlength hlt)⟩

theorem enclosing_answered (hwell : program.WellFormed) (hissued : ty.index < program.size) :
    Answered (program.enclosing ty) := by
  obtain ⟨around, hwalk, hlength⟩ := hwell.exists_walks hissued
  exact ⟨around, enclosing_eq_ok_iff.mpr ⟨hwalk, Nat.le_trans hlength hissued⟩⟩

theorem nestingPath_answered (hwell : program.WellFormed) (hissued : ty.index < program.size) :
    Answered (program.nestingPath ty) :=
  (hwell.enclosing_answered hissued).bind fun _ _ => answered_pure _

theorem scopeName_answered (hwell : program.WellFormed) (hissued : ty.index < program.size) :
    Answered (program.scopeName ty) :=
  (hwell.enclosing_answered hissued).bind fun _ _ => answered_pure _

theorem typeParameters_answered (hwell : program.WellFormed) (hissued : ty.index < program.size) :
    Answered (program.typeParameters ty) :=
  (hwell.enclosing_answered hissued).bind fun _ _ => answered_pure _

theorem isGeneric_answered (hwell : program.WellFormed) (hissued : ty.index < program.size) :
    Answered (program.isGeneric ty) :=
  (hwell.enclosing_answered hissued).bind fun _ _ => answered_pure _

theorem effectiveAccessibility_answered (hwell : program.WellFormed)
    (hissued : ty.index < program.size) : Answered (program.effectiveAccessibility ty) :=
  (hwell.enclosing_answered hissued).bind fun _ _ => answered_pure _

theorem qualifiedName_answered (hwell : program.WellFormed) (hissued : ty.index < program.size) :
    Answered (program.qualifiedName ty) := by
  apply (hwell.scopeName_answered hissued).bind
  intro scope _
  exact (decl_answered hissued).bind fun _ _ => answered_pure _

theorem displayName_answered (hwell : program.WellFormed) (hissued : ty.index < program.size) :
    Answered (program.displayName ty) := by
  apply (hwell.qualifiedName_answered hissued).bind
  intro qualified _
  exact (decl_answered hissued).bind fun _ _ => answered_pure _

theorem membersOf_answered (hwell : program.WellFormed) (hissued : ty.index < program.size) :
    Answered (program.membersOf ty) := by
  apply (entry_answered hissued).bind
  intro entry hentry
  apply answered_mapM
  intro handle hhandle
  have hlt := hwell.member_lt ty entry hentry handle hhandle
  have hmember : Answered (program.memberEntry handle) :=
    ⟨_, memberEntry_eq_ok.mpr (Array.getElem?_eq_getElem hlt)⟩
  exact (hmember.bind fun _ _ => answered_pure _).bind fun _ _ => answered_pure _

theorem membersNamed_answered (hwell : program.WellFormed) (hissued : ty.index < program.size)
    (name : String) : Answered (program.membersNamed ty name) :=
  (hwell.membersOf_answered hissued).bind fun _ _ => answered_pure _

end WellFormed

end TypeMetadata.Program
