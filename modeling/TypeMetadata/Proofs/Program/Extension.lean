import TypeMetadata.Proofs.Dispatch.EntryPoint
import TypeMetadata.Proofs.Program.WellFormed

/-!
Later declarations add to a program and take nothing back. What the program answers about a type,
the extended program answers too, except that more members may be listed.
-/

namespace TypeMetadata.Program

variable {earlier middle later : Program}

/-- The types keep their declarations and list their members first, and the members stay. -/
structure Extends (earlier later : Program) : Prop where
  entry : ∀ ty entry, earlier.entry ty = .ok entry →
    ∃ more, later.entry ty = .ok { entry with members := entry.members ++ more }
  memberEntry : ∀ member, Persists (earlier.memberEntry member) (later.memberEntry member)
  size_le : earlier.size ≤ later.size

theorem Extends.refl (program : Program) : program.Extends program where
  entry ty entry hentry := ⟨[], by rw [hentry, List.append_nil]⟩
  memberEntry member := .refl _
  size_le := Nat.le_refl _

theorem Extends.trans (hfirst : earlier.Extends middle) (hsecond : middle.Extends later) :
    earlier.Extends later where
  entry := by
    intro ty entry hentry
    obtain ⟨more, hmiddle⟩ := hfirst.entry ty entry hentry
    obtain ⟨last, hlater⟩ := hsecond.entry ty _ hmiddle
    refine ⟨more ++ last, ?_⟩
    rw [hlater, List.append_assoc]
  memberEntry := by
    intro member entry hentry
    exact hsecond.memberEntry member entry (hfirst.memberEntry member entry hentry)
  size_le := Nat.le_trans hfirst.size_le hsecond.size_le

/-! ### Declarations extend a program -/

theorem extends_withType (program : Program) (decl : TypeDecl) :
    program.Extends (program.withType decl) where
  entry := by
    intro ty entry hentry
    refine ⟨[], ?_⟩
    rw [List.append_nil]
    exact entry_withType.mpr (.inl hentry)
  memberEntry member := .refl _
  size_le := by
    rw [size, size, withType, Array.size_push]
    exact Nat.le_add_right _ 1

theorem extends_withMember {program : Program} {owner : TypeHandle} {found : TypeEntry}
    (hfound : program.entry owner = .ok found) (member : Member) :
    program.Extends (program.withMember owner found member) where
  entry := by
    intro ty entry hentry
    by_cases howner : ty = owner
    · subst howner
      rw [hfound, Except.ok.injEq] at hentry
      subst hentry
      exact ⟨_, (entry_withMember hfound).mpr (.inl ⟨rfl, rfl⟩)⟩
    · refine ⟨[], ?_⟩
      rw [List.append_nil]
      exact (entry_withMember hfound).mpr (.inr ⟨howner, hentry⟩)
  memberEntry _ _ hentry := memberEntry_withMember hentry
  size_le := Nat.le_of_eq Array.size_setIfInBounds.symm

theorem extends_add {program next : Program} {declaration : Declaration}
    (hadd : program.add declaration = .ok next) : program.Extends next := by
  rcases add_cases hadd with ⟨decl, name, -, -, rfl⟩ | ⟨owner, member, found, -, hfound, rfl⟩
  · obtain ⟨hentry, hmember, hsize⟩ := extends_withType program decl
    exact ⟨hentry, hmember, hsize⟩
  · exact extends_withMember hfound member

theorem extends_declareAll {declarations : List Declaration}
    (hdeclare : earlier.declareAll declarations = .ok later) : earlier.Extends later :=
  declareAll_induction (Extends.refl earlier)
    (fun _ _ _ hbefore hadd => hbefore.trans (extends_add hadd)) hdeclare

/-! ### Answers that stay -/

namespace Extends

theorem decl (hextends : earlier.Extends later) (ty : TypeHandle) :
    Persists (earlier.decl ty) (later.decl ty) := by
  intro decl hdecl
  obtain ⟨entry, hentry, rfl⟩ := decl_eq_ok.mp hdecl
  obtain ⟨more, hlater⟩ := hextends.entry ty entry hentry
  exact decl_eq_ok.mpr ⟨_, hlater, rfl⟩

theorem member (hextends : earlier.Extends later) (handle : MemberHandle) :
    Persists (earlier.member handle) (later.member handle) :=
  (hextends.memberEntry handle).bind fun _ => .refl _

theorem walks (hextends : earlier.Extends later) {ty : TypeHandle}
    {around : List (TypeHandle × TypeDecl)} (hwalk : earlier.Walks ty around) :
    later.Walks ty around := by
  induction hwalk with
  | outermost hdecl houtermost => exact .outermost (hextends.decl _ _ hdecl) houtermost
  | nested hdecl hcontainer _ ih => exact .nested (hextends.decl _ _ hdecl) hcontainer ih

theorem enclosing (hextends : earlier.Extends later) (ty : TypeHandle) :
    Persists (earlier.enclosing ty) (later.enclosing ty) := by
  intro around haround
  obtain ⟨hwalk, hlength⟩ := enclosing_eq_ok_iff.mp haround
  exact enclosing_eq_ok_iff.mpr ⟨hextends.walks hwalk, Nat.le_trans hlength hextends.size_le⟩

theorem nestingPath (hextends : earlier.Extends later) (ty : TypeHandle) :
    Persists (earlier.nestingPath ty) (later.nestingPath ty) :=
  (hextends.enclosing ty).bind fun _ => .refl _

theorem scopeName (hextends : earlier.Extends later) (ty : TypeHandle) :
    Persists (earlier.scopeName ty) (later.scopeName ty) :=
  (hextends.enclosing ty).bind fun _ => .refl _

theorem typeParameters (hextends : earlier.Extends later) (ty : TypeHandle) :
    Persists (earlier.typeParameters ty) (later.typeParameters ty) :=
  (hextends.enclosing ty).bind fun _ => .refl _

theorem isGeneric (hextends : earlier.Extends later) (ty : TypeHandle) :
    Persists (earlier.isGeneric ty) (later.isGeneric ty) :=
  (hextends.enclosing ty).bind fun _ => .refl _

theorem effectiveAccessibility (hextends : earlier.Extends later) (ty : TypeHandle) :
    Persists (earlier.effectiveAccessibility ty) (later.effectiveAccessibility ty) :=
  (hextends.enclosing ty).bind fun _ => .refl _

theorem qualifiedName (hextends : earlier.Extends later) (ty : TypeHandle) :
    Persists (earlier.qualifiedName ty) (later.qualifiedName ty) := by
  apply (hextends.scopeName ty).bind
  intro scope
  exact (hextends.decl ty).bind fun _ => .refl _

theorem displayName (hextends : earlier.Extends later) (ty : TypeHandle) :
    Persists (earlier.displayName ty) (later.displayName ty) := by
  apply (hextends.qualifiedName ty).bind
  intro qualified
  exact (hextends.decl ty).bind fun _ => .refl _

theorem memberDisplay (hextends : earlier.Extends later) (handle : MemberHandle) :
    Persists (earlier.memberDisplay handle) (later.memberDisplay handle) := by
  apply (hextends.memberEntry handle).bind
  intro entry
  apply (hextends.displayName entry.owner).bind
  intro owner
  cases entry.member.kind with
  | field ty => exact .refl _
  | property ty => exact .refl _
  | method signature =>
      apply (Persists.mapM hextends.displayName signature.parameters).bind
      intro types
      exact .refl _

/-! ### Members -/

theorem membersOf (hextends : earlier.Extends later) {ty : TypeHandle}
    {before after : List (MemberHandle × Member)} (hbefore : earlier.membersOf ty = .ok before)
    (hafter : later.membersOf ty = .ok after) : ∃ more, after = before ++ more := by
  rw [Program.membersOf, bind_eq_ok] at hbefore hafter
  obtain ⟨entry, hentry, hbefore⟩ := hbefore
  obtain ⟨found, hfound, hafter⟩ := hafter
  obtain ⟨added, hlater⟩ := hextends.entry ty entry hentry
  rw [hlater, Except.ok.injEq] at hfound
  subst hfound
  rw [List.mapM_append, bind_eq_ok] at hafter
  obtain ⟨kept, hkept, hafter⟩ := hafter
  rw [bind_eq_ok] at hafter
  obtain ⟨more, -, hafter⟩ := hafter
  rw [pure_eq_ok] at hafter
  have hsame := Persists.mapM (fun handle => (hextends.member handle).bind fun _ => .refl _)
    entry.members before hbefore
  rw [hsame, Except.ok.injEq] at hkept
  exact ⟨more, by rw [← hafter, hkept]⟩

theorem membersNamed (hextends : earlier.Extends later) {ty : TypeHandle} {name : String}
    {before : List (MemberHandle × Member)} (hbefore : earlier.membersNamed ty name = .ok before)
    (hanswered : Answered (later.membersOf ty)) :
    ∃ more, later.membersNamed ty name = .ok (before ++ more) := by
  obtain ⟨all, hall, rfl⟩ := membersNamed_eq_ok.mp hbefore
  obtain ⟨after, hafter⟩ := hanswered
  obtain ⟨more, rfl⟩ := hextends.membersOf hall hafter
  refine ⟨more.filter (·.2.name == name), ?_⟩
  rw [membersNamed_eq_ok]
  exact ⟨_, hafter, (List.filter_append _ _).symm⟩

/-- The search for an entry point never comes to the members that were added. -/
theorem rejectedMembers? (hextends : earlier.Extends later) {runtime : RuntimeTypes}
    {before : List (MemberHandle × Member)}
    (haccepted : earlier.rejectedMembers? runtime before = .ok none)
    (more : List (MemberHandle × Member)) :
    later.rejectedMembers? runtime (before ++ more) = .ok none := by
  induction before with
  | nil => cases haccepted
  | cons slot before ih =>
      obtain ⟨handle, member⟩ := slot
      rw [List.cons_append, Program.rejectedMembers?]
      rw [Program.rejectedMembers?] at haccepted
      cases hviolation : runtime.dispatchViolation? member.kind with
      | none => rfl
      | some violation =>
          simp only [hviolation, bind_eq_ok, pure_eq_ok, Option.map_eq_none_iff] at haccepted ⊢
          obtain ⟨display, hdisplay, others, hothers, rfl⟩ := haccepted
          exact ⟨display, hextends.memberDisplay handle display hdisplay, none, ih hothers, rfl⟩

end Extends

/-! ### The walk outwards -/

/-- The walk from a type goes on as the walk from its container, however many steps are left. -/
theorem enclosing_cases {program : Program} {ty : TypeHandle}
    {around : List (TypeHandle × TypeDecl)} (haround : program.enclosing ty = .ok around) :
    ∃ decl, program.decl ty = .ok decl ∧
      ((decl.container = none ∧ around = [(ty, decl)]) ∨
        ∃ container outer, decl.container = some container ∧
          program.enclosing container = .ok outer ∧ around = (ty, decl) :: outer) := by
  obtain ⟨hwalk, hlength⟩ := enclosing_eq_ok_iff.mp haround
  cases hwalk with
  | outermost hdecl houtermost => exact ⟨_, hdecl, .inl ⟨houtermost, rfl⟩⟩
  | nested hdecl hcontainer hrest =>
      have houter := enclosing_eq_ok_iff.mpr ⟨hrest, Nat.le_of_succ_le hlength⟩
      exact ⟨_, hdecl, .inr ⟨_, _, hcontainer, houter, rfl⟩⟩

end TypeMetadata.Program
