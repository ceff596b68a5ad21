import TypeMetadata.Proofs.Program.Lookup

/-!
Which handles a program leads to. All that a program knows was declared, so if the declarations
refer to declared types only, no question about the program leads out of it.
-/

namespace TypeMetadata

/-- The types that a program may have to look up for a declaration are below a bound. What values an
enumeration has, what a field holds and what a method gives back is only passed on. -/
def Declaration.RefersBelow (bound : Nat) : Declaration → Prop
  | .type decl => ∀ base ∈ decl.base, base.index < bound
  | .member _ ⟨_, .field _⟩ => True
  | .member _ ⟨_, .property _⟩ => True
  | .member _ ⟨_, .method signature⟩ =>
    ∀ parameter ∈ signature.parameters, parameter.index < bound

instance (bound : Nat) : (declaration : Declaration) → Decidable (declaration.RefersBelow bound)
  | .type decl => inferInstanceAs (Decidable (∀ base ∈ decl.base, base.index < bound))
  | .member _ ⟨_, .field _⟩ => isTrue trivial
  | .member _ ⟨_, .property _⟩ => isTrue trivial
  | .member _ ⟨_, .method signature⟩ =>
    inferInstanceAs (Decidable (∀ parameter ∈ signature.parameters, parameter.index < bound))

namespace Program

variable {program next : Program} {history : List Declaration}

/-- The types and members of a program come from declarations, and the members stand on types that
are there. -/
structure Recorded (program : Program) (history : List Declaration) : Prop where
  decl_mem : ∀ ty decl, program.decl ty = .ok decl → Declaration.type decl ∈ history
  member_mem : ∀ handle entry, program.memberEntry handle = .ok entry →
    Declaration.member entry.owner entry.member ∈ history
  owner_lt : ∀ handle entry, program.memberEntry handle = .ok entry →
    entry.owner.index < program.size

theorem recorded_empty : empty.Recorded [] where
  decl_mem ty decl hdecl := by
    obtain ⟨entry, hentry, -⟩ := decl_eq_ok.mp hdecl
    rw [entry_eq_ok] at hentry
    cases hentry
  member_mem handle entry hentry := by
    rw [memberEntry_eq_ok] at hentry
    cases hentry
  owner_lt handle entry hentry := by
    rw [memberEntry_eq_ok] at hentry
    cases hentry

theorem Recorded.withType (hrecorded : program.Recorded history) (decl : TypeDecl) :
    (program.withType decl).Recorded (history ++ [.type decl]) where
  decl_mem := by
    intro ty found hfound
    obtain ⟨entry, hentry, rfl⟩ := decl_eq_ok.mp hfound
    rw [List.mem_append, List.mem_singleton]
    rcases entry_withType.mp hentry with hold | ⟨-, rfl⟩
    · exact .inl (hrecorded.decl_mem ty _ (decl_eq_ok.mpr ⟨entry, hold, rfl⟩))
    · exact .inr rfl
  member_mem handle entry hentry :=
    List.mem_append_left _ (hrecorded.member_mem handle entry hentry)
  owner_lt handle entry hentry :=
    Nat.lt_of_lt_of_le (hrecorded.owner_lt handle entry hentry)
      (extends_withType program decl).size_le

theorem memberEntry_withMember_cases {owner : TypeHandle} {found : TypeEntry} {member : Member}
    {handle : MemberHandle} {entry : MemberEntry}
    (hentry : (program.withMember owner found member).memberEntry handle = .ok entry) :
    program.memberEntry handle = .ok entry ∨ entry = ⟨owner, member⟩ := by
  rw [memberEntry_eq_ok, withMember, Array.getElem?_push] at hentry
  split at hentry
  · exact .inr (Option.some_inj.mp hentry).symm
  · exact .inl (memberEntry_eq_ok.mpr hentry)

theorem Recorded.withMember {owner : TypeHandle} {found : TypeEntry}
    (hrecorded : program.Recorded history) (hfound : program.entry owner = .ok found)
    (member : Member) :
    (program.withMember owner found member).Recorded (history ++ [.member owner member]) where
  decl_mem := by
    intro ty decl hdecl
    obtain ⟨entry, hentry, rfl⟩ := decl_eq_ok.mp hdecl
    refine List.mem_append_left _ (hrecorded.decl_mem ty _ (decl_eq_ok.mpr ?_))
    rcases (entry_withMember hfound).mp hentry with ⟨rfl, rfl⟩ | ⟨-, hold⟩
    · exact ⟨found, hfound, rfl⟩
    · exact ⟨entry, hold, rfl⟩
  member_mem := by
    intro handle entry hentry
    rw [List.mem_append, List.mem_singleton]
    rcases memberEntry_withMember_cases hentry with hold | rfl
    · exact .inl (hrecorded.member_mem handle entry hold)
    · exact .inr rfl
  owner_lt := by
    intro handle entry hentry
    have hsize := (extends_withMember hfound member).size_le
    rcases memberEntry_withMember_cases hentry with hold | rfl
    · exact Nat.lt_of_lt_of_le (hrecorded.owner_lt handle entry hold) hsize
    · exact Nat.lt_of_lt_of_le (index_lt_size hfound) hsize

theorem Recorded.add {declaration : Declaration} (hrecorded : program.Recorded history)
    (hadd : program.add declaration = .ok next) : next.Recorded (history ++ [declaration]) := by
  rcases add_cases hadd with ⟨decl, name, rfl, -, rfl⟩ | ⟨owner, member, found, rfl, hfound, rfl⟩
  · obtain ⟨hdecl, hmember, howner⟩ := hrecorded.withType decl
    exact ⟨hdecl, hmember, howner⟩
  · exact hrecorded.withMember hfound member

theorem Recorded.declareAll {declarations : List Declaration} (hrecorded : program.Recorded history)
    (hdeclare : program.declareAll declarations = .ok next) :
    next.Recorded (history ++ declarations) :=
  declareAll_history_induction history hrecorded
    (fun _ _ _ _ hbefore hadd => hbefore.add hadd) hdeclare

/-- Every handle that a question about a program goes on to is that of a type or member of the
program. -/
structure Closed (program : Program) : Prop where
  wellFormed : program.WellFormed
  base_lt : ∀ ty decl base, program.decl ty = .ok decl → decl.base = some base →
    base.index < program.size
  owner_lt : ∀ handle entry, program.memberEntry handle = .ok entry →
    entry.owner.index < program.size
  parameter_lt : ∀ handle entry signature, program.memberEntry handle = .ok entry →
    entry.member.kind = .method signature →
      ∀ parameter ∈ signature.parameters, parameter.index < program.size
  named_lt : ∀ name ty, program.resolve? name = some ty → ty.index < program.size

theorem closed_of_declareAll (hdeclare : empty.declareAll history = .ok program)
    (hsize : program.size ≤ UInt32.size)
    (hrefers : ∀ declaration ∈ history, declaration.RefersBelow program.size) :
    program.Closed := by
  have hrecorded : program.Recorded history := recorded_empty.declareAll hdeclare
  have hlatest := leadsToLatest_of_declareAll hdeclare hsize
  refine ⟨wellFormed_empty.declareAll hdeclare, ?_, hrecorded.owner_lt, ?_, ?_⟩
  · intro ty decl base hdecl hbase
    exact hrefers _ (hrecorded.decl_mem ty decl hdecl) base hbase
  · rintro handle ⟨owner, name, _⟩ signature hentry rfl
    exact hrefers _ (hrecorded.member_mem handle _ hentry)
  · intro name ty hresolve
    exact index_lt_size_of_qualifiedName ((hlatest name ty).mp hresolve).qualifiedName

/-! ### Members -/

/-- Every type that a complaint about a member has to name is part of the program. -/
structure MembersClosed (program : Program) : Prop where
  wellFormed : program.WellFormed
  owner_lt : ∀ handle entry, program.memberEntry handle = .ok entry →
    entry.owner.index < program.size
  parameter_lt : ∀ handle entry signature, program.memberEntry handle = .ok entry →
    entry.member.kind = .method signature →
      ∀ parameter ∈ signature.parameters, parameter.index < program.size

theorem Closed.membersClosed (hclosed : program.Closed) : program.MembersClosed :=
  ⟨hclosed.wellFormed, hclosed.owner_lt, hclosed.parameter_lt⟩

theorem MembersClosed.memberDisplay_answered {handle : MemberHandle}
    (hclosed : program.MembersClosed) (hissued : handle.index < program.members.size) :
    Answered (program.memberDisplay handle) := by
  have hentry : Answered (program.memberEntry handle) :=
    ⟨_, memberEntry_eq_ok.mpr (Array.getElem?_eq_getElem hissued)⟩
  apply hentry.bind
  intro entry hentry
  apply (hclosed.wellFormed.displayName_answered (hclosed.owner_lt handle entry hentry)).bind
  intro owner _
  cases hkind : entry.member.kind with
  | field ty => exact answered_pure _
  | property ty => exact answered_pure _
  | method signature =>
      have hparameters : Answered (signature.parameters.mapM program.displayName) := by
        apply answered_mapM
        intro parameter hparameter
        exact hclosed.wellFormed.displayName_answered
          (hclosed.parameter_lt handle entry signature hentry hkind parameter hparameter)
      exact hparameters.bind fun _ _ => answered_pure _

end Program

end TypeMetadata
