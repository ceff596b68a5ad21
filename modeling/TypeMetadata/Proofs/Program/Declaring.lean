import TypeMetadata.Program.Declare
import TypeMetadata.Proofs.Program.Query

/-!
Programs come about by declaring one type or member after the other. What such a step does to the
tables is said once here, for types and for members.
-/

namespace TypeMetadata

theorem TypeHandle.index_inj {first second : TypeHandle} (heq : first.index = second.index) :
    first = second := by
  cases first
  cases second
  rw [TypeHandle.mk.injEq]
  exact UInt32.toNat_inj.mp heq

theorem TypeHandle.ofIndex_index (ty : TypeHandle) : TypeHandle.ofIndex ty.index = ty := by
  cases ty
  rw [ofIndex, index, TypeHandle.mk.injEq]
  exact UInt32.ofNat_toNat

theorem MemberHandle.index_ofIndex_le (index : Nat) : (MemberHandle.ofIndex index).index ≤ index :=
  Nat.mod_le _ _

/-- One step in the making of a program. -/
inductive Declaration
  | type (decl : TypeDecl)
  | member (owner : TypeHandle) (member : Member)

namespace Program

def add (program : Program) : Declaration → Query Program
  | .type decl => do
    let (_, next) ← program.declare decl
    return next
  | .member owner member => do
    let (_, next) ← program.declareMember owner member
    return next

def declareAll (program : Program) : List Declaration → Query Program
  | [] => return program
  | declaration :: declarations => do
    let next ← program.add declaration
    next.declareAll declarations

variable {program next : Program}

/-- What each step keeps of a program and the declarations so far, a series of steps keeps. -/
theorem declareAll_history_induction {motive : Program → List Declaration → Prop}
    (earlier : List Declaration) {declarations : List Declaration}
    (hstart : motive program earlier)
    (hstep : ∀ before after history declaration, motive before history →
      before.add declaration = .ok after → motive after (history ++ [declaration]))
    (hdeclare : program.declareAll declarations = .ok next) :
    motive next (earlier ++ declarations) := by
  induction declarations generalizing program earlier with
  | nil =>
      rw [declareAll, pure_eq_ok] at hdeclare
      rw [List.append_nil, ← hdeclare]
      exact hstart
  | cons declaration declarations ih =>
      rw [declareAll, bind_eq_ok] at hdeclare
      obtain ⟨middle, hadd, hrest⟩ := hdeclare
      rw [← List.singleton_append, ← List.append_assoc]
      exact ih _ (hstep _ _ _ _ hstart hadd) hrest

/-- What one step keeps, a whole series of steps keeps. -/
theorem declareAll_induction {motive : Program → Prop} {declarations : List Declaration}
    (hstart : motive program)
    (hstep : ∀ before after declaration, motive before → before.add declaration = .ok after →
      motive after)
    (hdeclare : program.declareAll declarations = .ok next) : motive next :=
  declareAll_history_induction (motive := fun program _ => motive program) [] hstart
    (fun before after _ declaration => hstep before after declaration) hdeclare

/-! ### One step -/

def withType (program : Program) (decl : TypeDecl) : Program :=
  { program with types := program.types.push ⟨decl, []⟩ }

def withMember (program : Program) (owner : TypeHandle) (entry : TypeEntry) (member : Member) :
    Program where
  types := program.types.setIfInBounds owner.index
    { entry with members := entry.members ++ [MemberHandle.ofIndex program.members.size] }
  members := program.members.push ⟨owner, member⟩
  byName := program.byName

theorem add_cases {declaration : Declaration} (hadd : program.add declaration = .ok next) :
    (∃ decl name, declaration = .type decl ∧
      (program.withType decl).qualifiedName (.ofIndex program.size) = .ok name ∧
      next = { program.withType decl with
        byName := program.byName.insert name (.ofIndex program.size) }) ∨
    (∃ owner member entry, declaration = .member owner member ∧
      program.entry owner = .ok entry ∧ next = program.withMember owner entry member) := by
  cases declaration with
  | type decl =>
      simp only [add, declare, bind_eq_ok, pure_eq_ok] at hadd
      obtain ⟨_, ⟨name, hname, rfl⟩, rfl⟩ := hadd
      exact .inl ⟨decl, name, rfl, hname, rfl⟩
  | member owner member =>
      simp only [add, declareMember, bind_eq_ok, pure_eq_ok] at hadd
      obtain ⟨_, ⟨entry, hentry, rfl⟩, rfl⟩ := hadd
      exact .inr ⟨owner, member, entry, rfl, hentry, rfl⟩

theorem add_type_eq_ok {decl : TypeDecl} {name : String}
    (hname : (program.withType decl).qualifiedName (.ofIndex program.size) = .ok name) :
    program.add (.type decl) = .ok { program.withType decl with
      byName := program.byName.insert name (.ofIndex program.size) } := by
  simp only [add, declare, bind_eq_ok, pure_eq_ok]
  exact ⟨_, ⟨name, hname, rfl⟩, rfl⟩

theorem add_member_eq_ok {owner : TypeHandle} {member : Member} {entry : TypeEntry}
    (hentry : program.entry owner = .ok entry) :
    program.add (.member owner member) = .ok (program.withMember owner entry member) := by
  simp only [add, declareMember, bind_eq_ok, pure_eq_ok]
  exact ⟨_, ⟨entry, hentry, rfl⟩, rfl⟩

/-! ### The tables after a step -/

theorem entry_eq_ok {ty : TypeHandle} {entry : TypeEntry} :
    program.entry ty = .ok entry ↔ program.types[ty.index]? = some entry := by
  rw [Program.entry]
  cases program.types[ty.index]? with
  | none => simp
  | some found => simp

theorem memberEntry_eq_ok {member : MemberHandle} {entry : MemberEntry} :
    program.memberEntry member = .ok entry ↔ program.members[member.index]? = some entry := by
  rw [Program.memberEntry]
  cases program.members[member.index]? with
  | none => simp
  | some found => simp

theorem index_lt_size {ty : TypeHandle} {entry : TypeEntry}
    (hentry : program.entry ty = .ok entry) : ty.index < program.size := by
  rw [entry_eq_ok] at hentry
  exact (Array.getElem?_eq_some_iff.mp hentry).1

theorem entry_withType {decl : TypeDecl} {ty : TypeHandle} {entry : TypeEntry} :
    (program.withType decl).entry ty = .ok entry ↔
      program.entry ty = .ok entry ∨ (ty.index = program.size ∧ entry = ⟨decl, []⟩) := by
  rw [entry_eq_ok, entry_eq_ok, withType, Array.getElem?_push]
  split
  · rename_i hnew
    rw [Array.getElem?_eq_none (Nat.le_of_eq hnew.symm), Option.some_inj]
    constructor
    · rintro rfl
      exact .inr ⟨hnew, rfl⟩
    · rintro (hnone | ⟨-, rfl⟩)
      · cases hnone
      · rfl
  · rename_i hold
    constructor
    · exact .inl
    · rintro (hentry | ⟨hnew, -⟩)
      · exact hentry
      · exact absurd hnew hold

theorem entry_withMember {owner : TypeHandle} {found : TypeEntry} {member : Member}
    (hfound : program.entry owner = .ok found) {ty : TypeHandle} {entry : TypeEntry} :
    (program.withMember owner found member).entry ty = .ok entry ↔
      (ty = owner ∧ entry =
        { found with members := found.members ++ [.ofIndex program.members.size] }) ∨
      (ty ≠ owner ∧ program.entry ty = .ok entry) := by
  have hsize := index_lt_size hfound
  rw [entry_eq_ok, entry_eq_ok, withMember, Array.getElem?_setIfInBounds]
  by_cases hty : ty = owner
  · subst hty
    rw [if_pos rfl, if_pos (show ty.index < program.types.size from hsize), Option.some_inj]
    simp [eq_comm]
  · rw [if_neg fun heq => hty (TypeHandle.index_inj heq).symm]
    simp [hty]

theorem memberEntry_withMember {owner : TypeHandle} {found : TypeEntry} {member : Member}
    {handle : MemberHandle} {entry : MemberEntry}
    (hentry : program.memberEntry handle = .ok entry) :
    (program.withMember owner found member).memberEntry handle = .ok entry := by
  rw [memberEntry_eq_ok] at hentry ⊢
  have hindex := (Array.getElem?_eq_some_iff.mp hentry).1
  rw [withMember, Array.getElem?_push_lt hindex, ← hentry, Array.getElem?_eq_getElem hindex]

end Program

end TypeMetadata
