import Mathlib.Data.List.Induction
import TypeMetadata.Proofs.Program.Members

/-!
Members and the types they stand on. The table of members tells the owner of each member, and each
type tells its members, and neither is made from the other when a question comes. They agree all the
same, since every declaration of a member writes both. So a type answers with the members that were
declared on it, whatever was declared in between.
-/

namespace TypeMetadata

theorem MemberHandle.ofIndex_index (handle : MemberHandle) :
    MemberHandle.ofIndex handle.index = handle := by
  cases handle
  rw [ofIndex, index, MemberHandle.mk.injEq]
  exact UInt32.ofNat_toNat

/-! ### The history -/

/-- The member that a declaration puts on a type under a name. -/
def Declaration.memberNamed? (ty : TypeHandle) (name : String) : Declaration → Option Member
  | .type _ => none
  | .member owner declared => if owner = ty ∧ declared.name = name then some declared else none

theorem map_snd_overloads (history : List Declaration) (ty : TypeHandle) (name : String) :
    (overloads history ty name).map Prod.snd =
      history.filterMap (Declaration.memberNamed? ty name) := by
  induction history using List.reverseRecOn with
  | nil => rfl
  | append_singleton history declaration ih =>
      rw [List.filterMap_append, ← ih, overloads, overloads, declaredMembers_concat]
      cases declaration with
      | type decl => simp [Declaration.memberEntry?, Declaration.memberNamed?]
      | member owner declared =>
          simp only [Declaration.memberEntry?, Option.toList_some, membersOn_concat,
            List.filter_append, List.map_append, List.append_cancel_left_eq]
          by_cases howner : owner = ty
          · by_cases hname : declared.name = name
            · simp [Declaration.memberNamed?, howner, hname]
            · simp [Declaration.memberNamed?, hname]
          · simp [Declaration.memberNamed?, howner]

/-- A declared member comes from a declaration with as many members before it as its place says. -/
theorem exists_split_of_declaredMembers {history : List Declaration} {owner : TypeHandle}
    {member : Member} {place : Nat}
    (hplace : (declaredMembers history)[place]? = some ⟨owner, member⟩) :
    ∃ before after, history = before ++ .member owner member :: after ∧
      (declaredMembers before).length = place := by
  obtain ⟨hlt, hentry⟩ := List.getElem?_eq_some_iff.mp hplace
  have hparts : declaredMembers history = (declaredMembers history).take place ++
      ⟨owner, member⟩ :: (declaredMembers history).drop (place + 1) := by
    rw [← hentry, List.getElem_cons_drop, List.take_append_drop]
  have hlength : ((declaredMembers history).take place).length = place :=
    List.length_take_of_le (Nat.le_of_lt hlt)
  obtain ⟨earlier, later, rfl, hearlier, hlater⟩ := List.filterMap_eq_append_iff.mp hparts
  obtain ⟨between, declaration, after, rfl, hnone, hfound, -⟩ :=
    List.filterMap_eq_cons_iff.mp hlater
  cases declaration with
  | type decl => cases hfound
  | member found declared =>
      cases hfound
      refine ⟨earlier ++ between, after, (List.append_assoc _ _ _).symm, ?_⟩
      rw [declaredMembers, List.filterMap_append, List.filterMap_eq_nil_iff.mpr hnone,
        List.append_nil, hearlier, hlength]

namespace Program

section

variable {program next : Program} {history : List Declaration} {ty owner : TypeHandle}
variable {handle : MemberHandle} {member : Member}

theorem declareAll_append {earlier later : List Declaration} :
    program.declareAll (earlier ++ later) = .ok next ↔
      ∃ middle, program.declareAll earlier = .ok middle ∧ middle.declareAll later = .ok next := by
  induction earlier generalizing program with
  | nil => simp [declareAll, pure_eq_ok]
  | cons declaration earlier ih =>
      simp only [List.cons_append, declareAll, bind_eq_ok, ih]
      constructor
      · rintro ⟨first, hadd, middle, hearlier, hlater⟩
        exact ⟨middle, ⟨first, hadd, hearlier⟩, hlater⟩
      · rintro ⟨middle, ⟨first, hadd, hearlier⟩, hlater⟩
        exact ⟨first, hadd, middle, hearlier, hlater⟩

/-- Some step of the history declares the member on the type, and the handle is what that step
answers. -/
def DeclaredAs (history : List Declaration) (handle : MemberHandle) (owner : TypeHandle)
    (member : Member) : Prop :=
  ∃ before after program next, history = before ++ .member owner member :: after ∧
    empty.declareAll before = .ok program ∧
    program.declareMember owner member = .ok (handle, next)

theorem handle_of_declareMember (hstep : program.declareMember owner member = .ok (handle, next)) :
    handle = .ofIndex program.members.size := by
  simp only [declareMember, bind_eq_ok, pure_eq_ok] at hstep
  obtain ⟨entry, -, heq⟩ := hstep
  exact (Prod.mk.inj heq).1.symm

theorem Lists.length_declaredMembers (hlists : program.Lists history) :
    (declaredMembers history).length = program.members.size := by
  rw [← hlists.members_eq, Array.length_toList]

/-- Handles are given out by the number of members that were declared before. -/
theorem declaredAs_iff (hdeclare : empty.declareAll history = .ok program) :
    DeclaredAs history handle owner member ↔
      (handle, member) ∈ membersOn (declaredMembers history) owner := by
  rw [mem_membersOn]
  constructor
  · rintro ⟨before, after, earlier, later, rfl, hearlier, hstep⟩
    have hsplit : declaredMembers (before ++ .member owner member :: after) =
        declaredMembers before ++ ⟨owner, member⟩ :: declaredMembers after :=
      List.filterMap_append
    refine ⟨earlier.members.size, ?_, handle_of_declareMember hstep⟩
    rw [hsplit, ← (lists_of_declareAll hearlier).length_declaredMembers]
    simp
  · rintro ⟨place, hplace, rfl⟩
    obtain ⟨before, after, rfl, rfl⟩ := exists_split_of_declaredMembers hplace
    obtain ⟨earlier, hearlier, hrest⟩ := declareAll_append.mp hdeclare
    rw [declareAll, bind_eq_ok] at hrest
    obtain ⟨later, hadd, -⟩ := hrest
    rw [add, bind_eq_ok] at hadd
    obtain ⟨⟨handle, found⟩, hstep, -⟩ := hadd
    rw [(lists_of_declareAll hearlier).length_declaredMembers, ← handle_of_declareMember hstep]
    exact ⟨before, after, earlier, found, rfl, hearlier, hstep⟩

/-! ### Both tables -/

namespace Lists

theorem memberEntry_eq_ok_iff (hlists : program.Lists history)
    (hsize : program.members.size ≤ UInt32.size) :
    program.memberEntry handle = .ok ⟨owner, member⟩ ↔
      (handle, member) ∈ membersOn (declaredMembers history) owner := by
  constructor
  · intro hentry
    rw [memberEntry_eq_ok, ← Array.getElem?_toList, hlists.members_eq] at hentry
    exact mem_membersOn.mpr ⟨handle.index, hentry, handle.ofIndex_index.symm⟩
  · exact hlists.memberEntry_eq hsize

theorem mem_members_iff (hlists : program.Lists history)
    (hsize : program.members.size ≤ UInt32.size) {entry : TypeEntry}
    (hentry : program.entry ty = .ok entry) :
    handle ∈ entry.members ↔ ∃ member, program.memberEntry handle = .ok ⟨ty, member⟩ := by
  simp only [hlists.entry_members ty entry hentry, hlists.memberEntry_eq_ok_iff hsize,
    List.mem_map, Prod.exists, exists_and_right, exists_eq_right]

theorem pairwise_members (hlists : program.Lists history)
    (hsize : program.members.size ≤ UInt32.size) {entry : TypeEntry}
    (hentry : program.entry ty = .ok entry) :
    entry.members.Pairwise fun first second => first.index < second.index := by
  rw [hlists.entry_members ty entry hentry, List.pairwise_map]
  rw [← hlists.length_declaredMembers] at hsize
  exact pairwise_membersOn hsize ty

theorem existsUnique_owner (hlists : program.Lists history)
    (hsize : program.members.size ≤ UInt32.size) (hissued : handle.index < program.members.size) :
    ∃! ty, ∃ entry, program.entry ty = .ok entry ∧ handle ∈ entry.members := by
  obtain ⟨⟨owner, member⟩, hfound⟩ : ∃ found, program.memberEntry handle = .ok found :=
    ⟨_, memberEntry_eq_ok.mpr (Array.getElem?_eq_getElem hissued)⟩
  obtain ⟨place, hplace, -⟩ :=
    mem_membersOn.mp ((hlists.memberEntry_eq_ok_iff hsize).mp hfound)
  obtain ⟨entry, hentry⟩ :=
    entry_answered (hlists.owner_lt _ (List.mem_of_getElem? hplace))
  refine ⟨owner, ⟨entry, hentry, (hlists.mem_members_iff hsize hentry).mpr ⟨member, hfound⟩⟩, ?_⟩
  rintro ty ⟨other, hother, hlisted⟩
  obtain ⟨again, hagain⟩ := (hlists.mem_members_iff hsize hother).mp hlisted
  rw [hfound, Except.ok.injEq, MemberEntry.mk.injEq] at hagain
  exact hagain.1.symm

end Lists

/-- The owner of a member and the list of a type tell of the same declarations. Every handle is in
one list, and a list has its handles in the order in which they were given out. What a type answers
about a name is what was declared on it under that name, in order and once each. -/
theorem member_lists_follow_owners (hdeclare : empty.declareAll history = .ok program)
    (hsize : program.members.size ≤ UInt32.size) :
    (∀ handle owner member, program.memberEntry handle = .ok ⟨owner, member⟩ ↔
        DeclaredAs history handle owner member) ∧
      (∀ ty entry, program.entry ty = .ok entry →
        (∀ handle, handle ∈ entry.members ↔
          ∃ member, program.memberEntry handle = .ok ⟨ty, member⟩) ∧
        entry.members.Pairwise fun first second => first.index < second.index) ∧
      (∀ handle : MemberHandle, handle.index < program.members.size →
        ∃! ty, ∃ entry, program.entry ty = .ok entry ∧ handle ∈ entry.members) ∧
      ∀ ty : TypeHandle, ty.index < program.size → ∀ name, ∃ found,
        program.membersNamed ty name = .ok found ∧
        (∀ handle member, (handle, member) ∈ found ↔
          DeclaredAs history handle ty member ∧ member.name = name) ∧
        (found.Pairwise fun first second => first.1.index < second.1.index) ∧
        found.map Prod.snd = history.filterMap (Declaration.memberNamed? ty name) := by
  have hlists := lists_of_declareAll hdeclare
  refine ⟨?_, ?_, fun handle => hlists.existsUnique_owner hsize, ?_⟩
  · intro handle owner member
    rw [hlists.memberEntry_eq_ok_iff hsize, declaredAs_iff hdeclare]
  · intro ty entry hentry
    exact ⟨fun handle => hlists.mem_members_iff hsize hentry, hlists.pairwise_members hsize hentry⟩
  · intro ty hissued name
    refine ⟨_, hlists.membersNamed_eq hsize hissued name, ?_, ?_, map_snd_overloads history ty name⟩
    · intro handle member
      rw [overloads, List.mem_filter, beq_iff_eq, declaredAs_iff hdeclare]
    · rw [← hlists.length_declaredMembers] at hsize
      exact (pairwise_membersOn hsize ty).filter _

end

/-! ### Members of two types in turn -/

namespace Desks

def copy (returns : Option TypeHandle) : Member := ⟨"Copy", .method ⟨[], [], returns⟩⟩

/-- A type that comes between members, and a name that comes up on both types and twice on one. -/
def history : List Declaration := [
  .type (TypeDecl.ofClass "Clerk"),
  .member ⟨0⟩ (copy none),
  .type (TypeDecl.ofClass "Printer"),
  .member ⟨1⟩ (copy none),
  .member ⟨0⟩ ⟨"Name", .field ⟨1⟩⟩,
  .member ⟨0⟩ (copy (some ⟨1⟩))]

def program : Program :=
  (empty.declareAll history).toOption.getD empty

end Desks

theorem member_lists_of_clerk :
    empty.declareAll Desks.history = .ok Desks.program ∧
      Desks.program.members.size ≤ UInt32.size ∧
      Desks.program.membersNamed ⟨0⟩ "Copy" =
        .ok [(⟨0⟩, Desks.copy none), (⟨3⟩, Desks.copy (some ⟨1⟩))] ∧
      DeclaredAs Desks.history ⟨3⟩ ⟨0⟩ (Desks.copy (some ⟨1⟩)) ∧
      ∃! ty, ∃ entry, Desks.program.entry ty = .ok entry ∧ ⟨1⟩ ∈ entry.members := by
  have hdeclare : empty.declareAll Desks.history = .ok Desks.program := rfl
  have hsize : Desks.program.members.size ≤ UInt32.size := by decide
  have hcopies : Desks.program.membersNamed ⟨0⟩ "Copy" =
      .ok [(⟨0⟩, Desks.copy none), (⟨3⟩, Desks.copy (some ⟨1⟩))] := rfl
  obtain ⟨-, -, howner, hnamed⟩ := member_lists_follow_owners hdeclare hsize
  obtain ⟨found, hfound, hdeclared, -⟩ := hnamed ⟨0⟩ (by decide) "Copy"
  rw [hcopies, Except.ok.injEq] at hfound
  subst hfound
  refine ⟨hdeclare, hsize, hcopies, ?_, howner ⟨1⟩ (by decide)⟩
  exact ((hdeclared _ _).mp (by simp)).1

end Program

end TypeMetadata
