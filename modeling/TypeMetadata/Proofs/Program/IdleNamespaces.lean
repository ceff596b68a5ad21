import TypeMetadata.Proofs.Program.Lookup

/-!
Namespaces of nested types. A nested type stands in its container and not in a namespace, so the
namespace that its declaration may give is idle: with another one, or with none, all types and all
members have the names they had.
-/

namespace TypeMetadata

/-! ### Declarations -/

/-- Two declarations that say the same, except that a nested one may be given another namespace. -/
inductive TypeDecl.Alike (decl : TypeDecl) : TypeDecl → Prop
  | same : Alike decl decl
  | nested (hnested : decl.container ≠ none) (space : Option String) :
      Alike decl { decl with namespaceName := space }

inductive Declaration.Alike : Declaration → Declaration → Prop
  | type {decl other : TypeDecl} (halike : decl.Alike other) : Alike (.type decl) (.type other)
  | member (owner : TypeHandle) (member : Member) :
      Alike (.member owner member) (.member owner member)

namespace TypeDecl.Alike

variable {decl other : TypeDecl}

theorem symm (halike : decl.Alike other) : other.Alike decl := by
  cases halike with
  | same => exact .same
  | nested hnested space =>
      exact @nested { decl with namespaceName := space } hnested decl.namespaceName

theorem name_eq (halike : decl.Alike other) : other.name = decl.name := by
  cases halike <;> rfl

theorem container_eq (halike : decl.Alike other) : other.container = decl.container := by
  cases halike <;> rfl

theorem typeParameters_eq (halike : decl.Alike other) :
    other.typeParameters = decl.typeParameters := by
  cases halike <;> rfl

theorem eq_of_outermost (halike : decl.Alike other) (houtermost : decl.container = none) :
    other = decl := by
  cases halike with
  | same => rfl
  | nested hnested space => exact absurd houtermost hnested

end TypeDecl.Alike

namespace Program

/-! ### Programs -/

/-- Two programs with the same tables, up to idle namespaces. -/
structure Alike (program other : Program) : Prop where
  size_eq : other.size = program.size
  entry : ∀ ty entry, program.entry ty = .ok entry →
    ∃ decl, entry.decl.Alike decl ∧ other.entry ty = .ok { entry with decl }
  members_eq : other.members = program.members
  byName_eq : other.byName = program.byName

namespace Alike

variable {program other next : Program} {ty : TypeHandle}

theorem refl (program : Program) : program.Alike program where
  size_eq := rfl
  entry _ entry hentry := ⟨entry.decl, .same, hentry⟩
  members_eq := rfl
  byName_eq := rfl

theorem symm (halike : program.Alike other) : other.Alike program where
  size_eq := halike.size_eq.symm
  entry := by
    intro ty entry hentry
    have hissued := index_lt_size hentry
    rw [halike.size_eq] at hissued
    obtain ⟨found, hfound⟩ := entry_answered hissued
    obtain ⟨decl, hdecl, hother⟩ := halike.entry ty found hfound
    rw [hentry, Except.ok.injEq] at hother
    subst hother
    exact ⟨found.decl, hdecl.symm, hfound⟩
  members_eq := halike.members_eq.symm
  byName_eq := halike.byName_eq.symm

theorem decl (halike : program.Alike other) {decl : TypeDecl} (hdecl : program.decl ty = .ok decl) :
    ∃ found, decl.Alike found ∧ other.decl ty = .ok found := by
  obtain ⟨entry, hentry, rfl⟩ := decl_eq_ok.mp hdecl
  obtain ⟨found, hfound, hother⟩ := halike.entry ty entry hentry
  exact ⟨found, hfound, decl_eq_ok.mpr ⟨_, hother, rfl⟩⟩

/-! ### Names -/

theorem standsIn (halike : program.Alike other) {scopes : List String}
    (hscopes : program.StandsIn ty scopes) : other.StandsIn ty scopes := by
  induction hscopes with
  | outermost hdecl houtermost =>
      obtain ⟨found, hfound, hother⟩ := halike.decl hdecl
      rw [hfound.eq_of_outermost houtermost] at hother
      exact .outermost hother houtermost
  | nested hdecl hcontainer houter _ ih =>
      obtain ⟨found, hfound, hother⟩ := halike.decl hdecl
      obtain ⟨outer, houterFound, houterOther⟩ := halike.decl houter
      rw [← houterFound.name_eq]
      exact .nested hother (hfound.container_eq.trans hcontainer) houterOther ih

theorem exists_walks (halike : program.Alike other) {around : List (TypeHandle × TypeDecl)}
    (hwalk : program.Walks ty around) :
    ∃ others, other.Walks ty others ∧ others.length = around.length := by
  induction hwalk with
  | outermost hdecl houtermost =>
      obtain ⟨found, hfound, hother⟩ := halike.decl hdecl
      exact ⟨_, .outermost hother (hfound.container_eq.trans houtermost), rfl⟩
  | nested hdecl hcontainer _ ih =>
      obtain ⟨found, hfound, hother⟩ := halike.decl hdecl
      obtain ⟨outer, houter, hlength⟩ := ih
      exact ⟨_, .nested hother (hfound.container_eq.trans hcontainer) houter,
        congrArg (· + 1) hlength⟩

theorem enclosing_answered (halike : program.Alike other)
    (hanswered : Answered (program.enclosing ty)) : Answered (other.enclosing ty) := by
  obtain ⟨around, haround⟩ := hanswered
  obtain ⟨hwalk, hbound⟩ := enclosing_eq_ok_iff.mp haround
  obtain ⟨others, hothers, hlength⟩ := halike.exists_walks hwalk
  rw [← hlength, ← halike.size_eq] at hbound
  exact ⟨others, enclosing_eq_ok_iff.mpr ⟨hothers, hbound⟩⟩

theorem scopeName (halike : program.Alike other) (ty : TypeHandle) :
    Persists (program.scopeName ty) (other.scopeName ty) := by
  intro scope hscope
  obtain ⟨scopes, hscopes, rfl⟩ := standsIn_of_scopeName hscope
  obtain ⟨around, haround, -⟩ := bind_eq_ok.mp hscope
  have henclosing : Answered (other.enclosing ty) := halike.enclosing_answered ⟨around, haround⟩
  obtain ⟨found, hfound⟩ : Answered (other.scopeName ty) :=
    henclosing.bind fun _ _ => answered_pure _
  obtain ⟨others, hothers, rfl⟩ := standsIn_of_scopeName hfound
  rw [hfound, hothers.unique (halike.standsIn hscopes)]

theorem qualifiedName (halike : program.Alike other) (ty : TypeHandle) :
    Persists (program.qualifiedName ty) (other.qualifiedName ty) := by
  intro name hname
  simp only [Program.qualifiedName, bind_eq_ok, pure_eq_ok] at hname ⊢
  obtain ⟨scope, hscope, decl, hdecl, rfl⟩ := hname
  obtain ⟨found, hfound, hother⟩ := halike.decl hdecl
  exact ⟨scope, halike.scopeName ty scope hscope, found, hother, by rw [hfound.name_eq]⟩

theorem displayName (halike : program.Alike other) (ty : TypeHandle) :
    Persists (program.displayName ty) (other.displayName ty) := by
  intro display hdisplay
  simp only [Program.displayName, bind_eq_ok, pure_eq_ok] at hdisplay ⊢
  obtain ⟨name, hname, decl, hdecl, rfl⟩ := hdisplay
  obtain ⟨found, hfound, hother⟩ := halike.decl hdecl
  exact ⟨name, halike.qualifiedName ty name hname, found, hother, by rw [hfound.typeParameters_eq]⟩

theorem memberDisplay (halike : program.Alike other) (handle : MemberHandle) :
    Persists (program.memberDisplay handle) (other.memberDisplay handle) := by
  have hentry : other.memberEntry handle = program.memberEntry handle := by
    rw [memberEntry, memberEntry, halike.members_eq]
  rw [Program.memberDisplay, Program.memberDisplay, hentry]
  apply (Persists.refl _).bind
  intro entry
  apply (halike.displayName entry.owner).bind
  intro owner
  cases entry.member.kind with
  | field ty => exact .refl _
  | property ty => exact .refl _
  | method signature =>
      apply (Persists.mapM halike.displayName signature.parameters).bind
      intro types
      exact .refl _

theorem resolve?_eq (halike : program.Alike other) (name : String) :
    other.resolve? name = program.resolve? name := by
  rw [resolve?, resolve?, halike.byName_eq]

/-! ### Declarations keep programs alike -/

theorem withType (halike : program.Alike other) {decl found : TypeDecl}
    (hfound : decl.Alike found) : (program.withType decl).Alike (other.withType found) where
  size_eq := by
    rw [size, size, Program.withType, Program.withType, Array.size_push, Array.size_push]
    exact congrArg (· + 1) halike.size_eq
  entry := by
    intro ty entry hentry
    rcases entry_withType.mp hentry with hold | ⟨hnew, rfl⟩
    · obtain ⟨again, hagain, hother⟩ := halike.entry ty entry hold
      exact ⟨again, hagain, entry_withType.mpr (.inl hother)⟩
    · exact ⟨found, hfound, entry_withType.mpr (.inr ⟨hnew.trans halike.size_eq.symm, rfl⟩)⟩
  members_eq := halike.members_eq
  byName_eq := halike.byName_eq

theorem withMember (halike : program.Alike other) {owner : TypeHandle} {entry : TypeEntry}
    (hentry : program.entry owner = .ok entry) {found : TypeDecl} (hfound : entry.decl.Alike found)
    (hother : other.entry owner = .ok { entry with decl := found }) (member : Member) :
    (program.withMember owner entry member).Alike
      (other.withMember owner { entry with decl := found } member) where
  size_eq := by
    rw [size, size, Program.withMember, Program.withMember, Array.size_setIfInBounds,
      Array.size_setIfInBounds]
    exact halike.size_eq
  entry := by
    intro ty after hafter
    rcases (entry_withMember hentry).mp hafter with ⟨rfl, rfl⟩ | ⟨hne, hold⟩
    · refine ⟨found, hfound, (entry_withMember hother).mpr (.inl ⟨rfl, ?_⟩)⟩
      rw [halike.members_eq]
    · obtain ⟨again, hagain, hstays⟩ := halike.entry ty after hold
      exact ⟨again, hagain, (entry_withMember hother).mpr (.inr ⟨hne, hstays⟩)⟩
  members_eq := congrArg (·.push ⟨owner, member⟩) halike.members_eq
  byName_eq := halike.byName_eq

theorem add (halike : program.Alike other) {declaration another : Declaration}
    (hdeclaration : declaration.Alike another) (hadd : program.add declaration = .ok next) :
    ∃ found, other.add another = .ok found ∧ next.Alike found := by
  rcases add_cases hadd with
    ⟨decl, name, rfl, hname, rfl⟩ | ⟨owner, member, entry, rfl, hentry, rfl⟩
  · cases hdeclaration with
    | type hdecl =>
        have hgrown := halike.withType hdecl
        have hother := hgrown.qualifiedName _ name hname
        rw [← halike.size_eq] at hother
        refine ⟨_, add_type_eq_ok hother, ?_⟩
        obtain ⟨hsize, hentries, hmembers, -⟩ := hgrown
        refine ⟨hsize, hentries, hmembers, ?_⟩
        change other.byName.insert name _ = program.byName.insert name _
        rw [halike.byName_eq, halike.size_eq]
  · cases hdeclaration
    obtain ⟨found, hfound, hother⟩ := halike.entry owner entry hentry
    exact ⟨_, add_member_eq_ok hother, halike.withMember hentry hfound hother member⟩

theorem declareAll (halike : program.Alike other) {history others : List Declaration}
    (hhistory : List.Forall₂ Declaration.Alike history others)
    (hdeclare : program.declareAll history = .ok next) :
    ∃ found, other.declareAll others = .ok found ∧ next.Alike found := by
  induction hhistory generalizing program other with
  | nil =>
      cases hdeclare
      exact ⟨other, rfl, halike⟩
  | cons hdeclaration _ ih =>
      obtain ⟨middle, hadd, hrest⟩ := bind_eq_ok.mp hdeclare
      obtain ⟨found, hfound, hmiddle⟩ := halike.add hdeclaration hadd
      obtain ⟨last, hlast, hnext⟩ := ih hmiddle hrest
      exact ⟨last, bind_eq_ok.mpr ⟨found, hfound, hlast⟩, hnext⟩

end Alike

/-- Two programs give the same names to all types and members, and the same types to all names. -/
structure SameNames (program other : Program) : Prop where
  scopeName : ∀ ty scope, other.scopeName ty = .ok scope ↔ program.scopeName ty = .ok scope
  qualifiedName : ∀ ty name, other.qualifiedName ty = .ok name ↔ program.qualifiedName ty = .ok name
  displayName : ∀ ty display, other.displayName ty = .ok display ↔
    program.displayName ty = .ok display
  memberDisplay : ∀ handle display, other.memberDisplay handle = .ok display ↔
    program.memberDisplay handle = .ok display
  resolve? : ∀ name, other.resolve? name = program.resolve? name

theorem Alike.sameNames {program other : Program} (halike : program.Alike other) :
    program.SameNames other where
  scopeName ty scope := ⟨halike.symm.scopeName ty scope, halike.scopeName ty scope⟩
  qualifiedName ty name := ⟨halike.symm.qualifiedName ty name, halike.qualifiedName ty name⟩
  displayName ty display := ⟨halike.symm.displayName ty display, halike.displayName ty display⟩
  memberDisplay handle display :=
    ⟨halike.symm.memberDisplay handle display, halike.memberDisplay handle display⟩
  resolve? := halike.resolve?_eq

/-- Idle namespaces may be exchanged in all declarations of a program, and no name changes. -/
theorem sameNames_of_declareAll {history others : List Declaration} {program : Program}
    (hhistory : List.Forall₂ Declaration.Alike history others)
    (hdeclare : empty.declareAll history = .ok program) :
    ∃ other, empty.declareAll others = .ok other ∧ program.SameNames other := by
  obtain ⟨other, hother, halike⟩ := (Alike.refl empty).declareAll hhistory hdeclare
  exact ⟨other, hother, halike.sameNames⟩

end Program

end TypeMetadata
