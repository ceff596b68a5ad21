import TypeMetadata.Proofs.Program.Extension

/-!
The members of a program as they were declared. A program keeps its members twice: in a table, each
with the type it stands on, and in a list on that type. Both tell the same story, which is that of
the declarations.
-/

namespace TypeMetadata

theorem MemberHandle.index_ofIndex {index : Nat} (hindex : index < UInt32.size) :
    (MemberHandle.ofIndex index).index = index :=
  Nat.mod_eq_of_lt hindex

def Declaration.memberEntry? : Declaration → Option MemberEntry
  | .type _ => none
  | .member owner declared => some ⟨owner, declared⟩

/-- The members that are declared one after another. -/
def declaredMembers (history : List Declaration) : List MemberEntry :=
  history.filterMap Declaration.memberEntry?

theorem mem_declaredMembers {history : List Declaration} {owner : TypeHandle} {member : Member} :
    ⟨owner, member⟩ ∈ declaredMembers history ↔ Declaration.member owner member ∈ history := by
  rw [declaredMembers, List.mem_filterMap]
  constructor
  · rintro ⟨declaration, hmem, hentry⟩
    cases declaration with
    | type decl => cases hentry
    | member found declared =>
        cases hentry
        exact hmem
  · intro hmem
    exact ⟨_, hmem, rfl⟩

theorem declaredMembers_concat (history : List Declaration) (declaration : Declaration) :
    declaredMembers (history ++ [declaration]) =
      declaredMembers history ++ declaration.memberEntry?.toList := by
  rw [declaredMembers, declaredMembers, List.filterMap_append]
  cases declaration <;> rfl

/-- The members on a type in order of declaration, each with the handle that its place among all
members gives it. -/
def membersOn (entries : List MemberEntry) (ty : TypeHandle) : List (MemberHandle × Member) :=
  (entries.zipIdx.filter fun slot => slot.1.owner == ty).map fun slot =>
    (.ofIndex slot.2, slot.1.member)

theorem membersOn_concat (entries : List MemberEntry) (entry : MemberEntry) (ty : TypeHandle) :
    membersOn (entries ++ [entry]) ty = membersOn entries ty ++
      if entry.owner = ty then [(.ofIndex entries.length, entry.member)] else [] := by
  rw [membersOn, membersOn, List.zipIdx_append, List.filter_append, List.map_append,
    List.zipIdx_singleton, Nat.zero_add, List.filter_singleton]
  by_cases howner : entry.owner = ty
  · simp [howner]
  · simp [howner, beq_false_of_ne howner]

theorem mem_membersOn {entries : List MemberEntry} {ty : TypeHandle} {handle : MemberHandle}
    {member : Member} :
    (handle, member) ∈ membersOn entries ty ↔
      ∃ place, entries[place]? = some ⟨ty, member⟩ ∧ handle = .ofIndex place := by
  simp only [membersOn, List.mem_map, List.mem_filter, beq_iff_eq, Prod.exists,
    List.mk_mem_zipIdx_iff_getElem?, Prod.mk.injEq]
  constructor
  · rintro ⟨⟨owner, found⟩, place, ⟨hplace, rfl⟩, rfl, rfl⟩
    exact ⟨place, hplace, rfl⟩
  · rintro ⟨place, hplace, rfl⟩
    exact ⟨_, place, ⟨hplace, rfl⟩, rfl, rfl⟩

theorem membersOn_eq_nil {entries : List MemberEntry} {ty : TypeHandle}
    (hnone : ∀ entry ∈ entries, entry.owner ≠ ty) : membersOn entries ty = [] := by
  rw [List.eq_nil_iff_forall_not_mem]
  rintro ⟨handle, member⟩ hmem
  obtain ⟨place, hplace, -⟩ := mem_membersOn.mp hmem
  exact hnone _ (List.mem_of_getElem? hplace) rfl

theorem exists_mem_membersOn_iff {history : List Declaration} {ty : TypeHandle}
    {member : Member} :
    (∃ handle, (handle, member) ∈ membersOn (declaredMembers history) ty) ↔
      Declaration.member ty member ∈ history := by
  rw [← mem_declaredMembers, List.mem_iff_getElem?]
  simp only [mem_membersOn]
  constructor
  · rintro ⟨_, place, hplace, -⟩
    exact ⟨place, hplace⟩
  · rintro ⟨place, hplace⟩
    exact ⟨_, place, hplace, rfl⟩

/-- The members that are declared on a type under one name, in order. -/
def overloads (history : List Declaration) (ty : TypeHandle) (name : String) :
    List (MemberHandle × Member) :=
  (membersOn (declaredMembers history) ty).filter fun slot => slot.2.name == name

theorem exists_mem_overloads_iff {history : List Declaration} {ty : TypeHandle} {name : String}
    {member : Member} :
    (∃ handle, (handle, member) ∈ overloads history ty name) ↔
      Declaration.member ty member ∈ history ∧ member.name = name := by
  simp only [overloads, List.mem_filter, beq_iff_eq, exists_and_right, exists_mem_membersOn_iff]

/-- Later members have greater handles. -/
theorem pairwise_membersOn {entries : List MemberEntry} (hlength : entries.length ≤ UInt32.size)
    (ty : TypeHandle) :
    (membersOn entries ty).Pairwise fun first second => first.1.index < second.1.index := by
  have hplaces : entries.zipIdx.Pairwise fun first second => first.2 < second.2 := by
    simp [List.pairwise_iff_getElem]
  have hlt : ∀ slot ∈ entries.zipIdx, slot.2 < UInt32.size := by
    intro slot hslot
    exact Nat.lt_of_lt_of_le (List.snd_lt_of_mem_zipIdx hslot) (by omega)
  rw [membersOn, List.pairwise_map]
  apply (hplaces.sublist List.filter_sublist).imp_of_mem
  intro first second hfirst hsecond hplace
  rw [MemberHandle.index_ofIndex (hlt first (List.mem_of_mem_filter hfirst)),
    MemberHandle.index_ofIndex (hlt second (List.mem_of_mem_filter hsecond))]
  exact hplace

namespace Program

variable {program next : Program} {history : List Declaration} {ty : TypeHandle}

/-- The table holds the declared members, each of which stands on a type of the program, and each
type lists those that stand on it. -/
structure Lists (program : Program) (history : List Declaration) : Prop where
  members_eq : program.members.toList = declaredMembers history
  owner_lt : ∀ entry ∈ declaredMembers history, entry.owner.index < program.size
  entry_members : ∀ ty entry, program.entry ty = .ok entry →
    entry.members = (membersOn (declaredMembers history) ty).map Prod.fst

theorem lists_empty : empty.Lists [] where
  members_eq := rfl
  owner_lt _ hmem := absurd hmem List.not_mem_nil
  entry_members ty entry hentry := by
    rw [entry_eq_ok] at hentry
    cases hentry

theorem Lists.withType (hlists : program.Lists history) (decl : TypeDecl) :
    (program.withType decl).Lists (history ++ [.type decl]) := by
  have hsame : declaredMembers (history ++ [.type decl]) = declaredMembers history := by
    rw [declaredMembers_concat]
    exact List.append_nil _
  constructor
  · rw [hsame]
    exact hlists.members_eq
  · intro entry hentry
    rw [hsame] at hentry
    exact Nat.lt_of_lt_of_le (hlists.owner_lt entry hentry) (extends_withType program decl).size_le
  · intro ty entry hentry
    rw [hsame]
    rcases entry_withType.mp hentry with hold | ⟨hnew, rfl⟩
    · exact hlists.entry_members ty entry hold
    · -- Nothing was declared on the type before it was there.
      have hnone : ∀ entry ∈ declaredMembers history, entry.owner ≠ ty := by
        rintro entry hmem rfl
        exact Nat.ne_of_lt (hlists.owner_lt entry hmem) hnew
      rw [membersOn_eq_nil hnone]
      rfl

theorem Lists.withMember {owner : TypeHandle} {found : TypeEntry}
    (hlists : program.Lists history) (hfound : program.entry owner = .ok found) (member : Member) :
    (program.withMember owner found member).Lists (history ++ [.member owner member]) := by
  have hconcat : declaredMembers (history ++ [.member owner member]) =
      declaredMembers history ++ [⟨owner, member⟩] := declaredMembers_concat history _
  have hlength : (declaredMembers history).length = program.members.size := by
    rw [← hlists.members_eq, Array.length_toList]
  constructor
  · rw [hconcat, ← hlists.members_eq]
    exact Array.toList_push
  · have hsize := (extends_withMember hfound member).size_le
    intro entry hentry
    rw [hconcat, List.mem_append, List.mem_singleton] at hentry
    rcases hentry with hold | rfl
    · exact Nat.lt_of_lt_of_le (hlists.owner_lt entry hold) hsize
    · exact Nat.lt_of_lt_of_le (index_lt_size hfound) hsize
  · intro ty entry hentry
    rw [hconcat, membersOn_concat, List.map_append, hlength]
    rcases (entry_withMember hfound).mp hentry with ⟨rfl, rfl⟩ | ⟨hother, hold⟩
    · rw [if_pos rfl, ← hlists.entry_members ty found hfound]
      rfl
    · rw [if_neg (Ne.symm hother), ← hlists.entry_members ty entry hold]
      exact (List.append_nil _).symm

theorem Lists.add {declaration : Declaration} (hlists : program.Lists history)
    (hadd : program.add declaration = .ok next) : next.Lists (history ++ [declaration]) := by
  rcases add_cases hadd with ⟨decl, name, rfl, -, rfl⟩ | ⟨owner, member, found, rfl, hfound, rfl⟩
  · obtain ⟨hmembers, howner, hentry⟩ := hlists.withType decl
    exact ⟨hmembers, howner, hentry⟩
  · exact hlists.withMember hfound member

theorem lists_of_declareAll (hdeclare : empty.declareAll history = .ok program) :
    program.Lists history :=
  declareAll_history_induction [] lists_empty (fun _ _ _ _ hbefore hadd => hbefore.add hadd) hdeclare

/-! ### What a type answers about its members -/

theorem Lists.memberEntry_eq (hlists : program.Lists history)
    (hsize : program.members.size ≤ UInt32.size) {handle : MemberHandle} {member : Member}
    (hmember : (handle, member) ∈ membersOn (declaredMembers history) ty) :
    program.memberEntry handle = .ok ⟨ty, member⟩ := by
  obtain ⟨place, hplace, rfl⟩ := mem_membersOn.mp hmember
  rw [← hlists.members_eq, Array.getElem?_toList] at hplace
  have hlt : place < program.members.size := (Array.getElem?_eq_some_iff.mp hplace).1
  rw [memberEntry_eq_ok, MemberHandle.index_ofIndex (Nat.lt_of_lt_of_le hlt hsize)]
  exact hplace

theorem Lists.membersOf_eq (hlists : program.Lists history)
    (hsize : program.members.size ≤ UInt32.size) (hissued : ty.index < program.size) :
    program.membersOf ty = .ok (membersOn (declaredMembers history) ty) := by
  obtain ⟨entry, hentry⟩ := entry_answered hissued
  rw [membersOf, bind_eq_ok]
  refine ⟨entry, hentry, ?_⟩
  rw [hlists.entry_members ty entry hentry, mapM_eq_ok, List.forall₂_map_left_iff,
    List.forall₂_same]
  rintro ⟨handle, member⟩ hmember
  rw [Program.member, hlists.memberEntry_eq hsize hmember]
  rfl

theorem Lists.membersNamed_eq (hlists : program.Lists history)
    (hsize : program.members.size ≤ UInt32.size) (hissued : ty.index < program.size)
    (name : String) : program.membersNamed ty name = .ok (overloads history ty name) :=
  membersNamed_eq_ok.mpr ⟨_, hlists.membersOf_eq hsize hissued, rfl⟩

end Program

end TypeMetadata
