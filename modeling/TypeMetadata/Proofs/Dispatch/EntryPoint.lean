import TypeMetadata.Dispatch.Contract
import TypeMetadata.Proofs.Program.Query

/-!
What the dispatch contract asks for, said without the order in which it is checked: the type itself
declares the one method that takes the calls.
-/

namespace TypeMetadata

def RuntimeTypes.entrySignature (runtime : RuntimeTypes) : MethodSignature where
  typeParameters := []
  parameters := [runtime.completionSource, runtime.invokable]
  returns := none

/-- A type declares the dispatch entry point itself. -/
def Program.HasEntryPoint (program : Program) (runtime : RuntimeTypes) (base : TypeHandle) :
    Prop :=
  ∃ entry handle member, program.entry base = .ok entry ∧ handle ∈ entry.members ∧
    program.member handle = .ok member ∧ member.name = runtime.dispatchMethod ∧
    member.kind = .method runtime.entrySignature

/-- The conditions together leave exactly one kind of member. -/
theorem RuntimeTypes.dispatchViolation?_eq_none_iff (runtime : RuntimeTypes) (kind : MemberKind) :
    runtime.dispatchViolation? kind = none ↔ kind = .method runtime.entrySignature := by
  cases kind with
  | field ty => simp [dispatchViolation?]
  | property ty => simp [dispatchViolation?]
  | method signature =>
      obtain ⟨typeParameters, parameters, returns⟩ := signature
      simp only [dispatchViolation?, entrySignature, MemberKind.method.injEq,
        MethodSignature.mk.injEq]
      constructor
      · intro hnone
        split at hnone
        · simp at hnone
        · split at hnone
          · split at hnone
            · simp at hnone
            · split at hnone
              · simp at hnone
              · split at hnone <;> simp_all
          · simp at hnone
      · rintro ⟨rfl, rfl, rfl⟩
        simp

namespace Program

variable {program : Program} {runtime : RuntimeTypes}

theorem membersNamed_eq_ok {ty : TypeHandle} {name : String}
    {members : List (MemberHandle × Member)} :
    program.membersNamed ty name = .ok members ↔
      ∃ all, program.membersOf ty = .ok all ∧ members = all.filter (·.2.name == name) := by
  simp only [membersNamed, bind_eq_ok, pure_eq_ok]
  exact exists_congr fun all => and_congr_right fun _ => eq_comm

theorem mem_membersOf {ty : TypeHandle} {members : List (MemberHandle × Member)}
    (hmembers : program.membersOf ty = .ok members) (handle : MemberHandle) (member : Member) :
    (handle, member) ∈ members ↔
      ∃ entry, program.entry ty = .ok entry ∧ handle ∈ entry.members ∧
        program.member handle = .ok member := by
  simp only [membersOf, bind_eq_ok] at hmembers
  obtain ⟨entry, hentry, hmembers⟩ := hmembers
  simp only [mapM_eq_ok, bind_eq_ok, pure_eq_ok] at hmembers
  rw [hentry]
  simp only [Except.ok.injEq, exists_eq_left']
  generalize entry.members = handles at hmembers ⊢
  induction hmembers with
  | nil => simp
  | cons hhead _ ih =>
      obtain ⟨found, hfound, rfl⟩ := hhead
      rw [List.mem_cons, List.mem_cons, ih, Prod.mk.injEq]
      constructor
      · rintro (⟨rfl, rfl⟩ | ⟨hmem, hmember⟩)
        · exact ⟨.inl rfl, hfound⟩
        · exact ⟨.inr hmem, hmember⟩
      · rintro ⟨rfl | hmem, hmember⟩
        · rw [hfound, Except.ok.injEq] at hmember
          exact .inl ⟨rfl, hmember.symm⟩
        · exact .inr ⟨hmem, hmember⟩

/-- The members under the dispatch name are all rejected unless one of them is the entry point. -/
theorem rejectedMembers?_eq_none_iff {members : List (MemberHandle × Member)}
    {rejected : Option (List RejectedMember)}
    (hrejected : program.rejectedMembers? runtime members = .ok rejected) :
    rejected = none ↔ ∃ slot ∈ members, runtime.dispatchViolation? slot.2.kind = none := by
  induction members generalizing rejected with
  | nil =>
      rw [rejectedMembers?, pure_eq_ok] at hrejected
      simp [← hrejected]
  | cons slot members ih =>
      obtain ⟨handle, member⟩ := slot
      rw [rejectedMembers?] at hrejected
      split at hrejected
      · rename_i haccepted
        rw [pure_eq_ok] at hrejected
        simp [← hrejected, haccepted]
      · rename_i violation hviolation
        simp only [bind_eq_ok, pure_eq_ok] at hrejected
        obtain ⟨display, -, others, hothers, rfl⟩ := hrejected
        simp [ih hothers, hviolation]

/-- Only a search that comes upon the entry point ends without complaint. -/
theorem checkProxyBase_accepts_iff {base : TypeHandle} :
    program.checkProxyBase runtime base = .ok (.ok ()) ↔
      ∃ members, program.membersNamed base runtime.dispatchMethod = .ok members ∧
        program.rejectedMembers? runtime members = .ok none := by
  simp only [checkProxyBase, bind_eq_ok]
  constructor
  · rintro ⟨members, hmembers, rejected, hrejected, hanswer⟩
    refine ⟨members, hmembers, ?_⟩
    rcases rejected with _ | _ | ⟨first, others⟩
    · exact hrejected
    · simp only [bind_eq_ok, pure_eq_ok, reduceCtorEq, and_false, exists_false] at hanswer
    · simp only [bind_eq_ok, pure_eq_ok, reduceCtorEq, and_false, exists_false] at hanswer
  · rintro ⟨members, hmembers, hnone⟩
    exact ⟨members, hmembers, none, hnone, rfl⟩

/-- A type is accepted as a proxy base exactly if it declares the entry point. -/
theorem checkProxyBase_eq_ok_iff {base : TypeHandle} {answer : Except ContractError Unit}
    (hcheck : program.checkProxyBase runtime base = .ok answer) :
    answer = .ok () ↔ program.HasEntryPoint runtime base := by
  have haccepts : answer = .ok () ↔ program.checkProxyBase runtime base = .ok (.ok ()) := by
    rw [hcheck, Except.ok.injEq]
  simp only [checkProxyBase, bind_eq_ok] at hcheck
  obtain ⟨members, hmembers, rejected, hrejected, -⟩ := hcheck
  obtain ⟨all, hall, rfl⟩ := membersNamed_eq_ok.mp hmembers
  rw [haccepts, checkProxyBase_accepts_iff]
  simp only [hmembers, Except.ok.injEq, exists_eq_left', hrejected]
  rw [rejectedMembers?_eq_none_iff hrejected]
  simp only [RuntimeTypes.dispatchViolation?_eq_none_iff, List.mem_filter, Prod.exists,
    mem_membersOf hall, beq_iff_eq, HasEntryPoint]
  constructor
  · rintro ⟨handle, member, ⟨⟨entry, hentry, hmem, hmember⟩, hname⟩, hkind⟩
    exact ⟨entry, handle, member, hentry, hmem, hmember, hname, hkind⟩
  · rintro ⟨entry, handle, member, hentry, hmem, hmember, hname, hkind⟩
    exact ⟨handle, member, ⟨⟨entry, hentry, hmem, hmember⟩, hname⟩, hkind⟩

end Program

end TypeMetadata
