import TypeMetadata.Proofs.Descriptor.Description

/-!
Serialization hooks. Each application of the callbacks marker has to begin with a type, and the
first that does not decides the complaint.
-/

namespace TypeMetadata

def BeginsWithType (arguments : List AttributeArgument) : Prop :=
  ∃ hook rest, arguments = .type hook :: rest

/-- The arguments begin with the type that is the hook. What follows it does not count. -/
def NamesHook (arguments : List AttributeArgument) (hook : TypeHandle) : Prop :=
  ∃ rest, arguments = .type hook :: rest

/-- A type carries an application of the callbacks marker that does not begin with a type. -/
def Program.HasMalformedHook (program : Program) (ty : TypeHandle) : Prop :=
  ∃ decl, program.decl ty = .ok decl ∧
    ∃ applied ∈ decl.capabilities, applied.capability = .serializationCallbacks ∧
      ¬BeginsWithType applied.arguments

theorem TypeDecl.mem_capabilityArguments {decl : TypeDecl} {capability : Capability}
    {arguments : List AttributeArgument} :
    arguments ∈ decl.capabilityArguments capability ↔
      ∃ applied ∈ decl.capabilities, applied.capability = capability ∧
        applied.arguments = arguments := by
  simp [capabilityArguments, and_assoc]

namespace TypeDescriptor

def hookOf (subject : String) (application : List AttributeArgument × Nat) :
    Except DescriptorError TypeHandle :=
  match application.1 with
  | .type hook :: _ => .ok hook
  | _ => .error (.malformedHook subject application.2 application.1.head?)

theorem hooksOf_eq_mapM (subject : String) (applications : List (List AttributeArgument)) :
    hooksOf subject applications = applications.zipIdx.mapM (hookOf subject) :=
  rfl

theorem hookOf_eq_ok_iff {subject : String} {application : List AttributeArgument × Nat}
    {hook : TypeHandle} :
    hookOf subject application = .ok hook ↔ NamesHook application.1 hook := by
  obtain ⟨arguments, position⟩ := application
  rcases arguments with _ | ⟨argument, rest⟩
  · simp [hookOf, NamesHook]
  · cases argument <;> simp [hookOf, NamesHook]

theorem answered_hookOf_iff {subject : String} {application : List AttributeArgument × Nat} :
    Answered (hookOf subject application) ↔ BeginsWithType application.1 :=
  exists_congr fun _ => hookOf_eq_ok_iff

theorem hookOf_eq_error_iff {subject : String} {application : List AttributeArgument × Nat}
    {error : DescriptorError} :
    hookOf subject application = .error error ↔ ¬BeginsWithType application.1 ∧
      .malformedHook subject application.2 application.1.head? = error := by
  obtain ⟨arguments, position⟩ := application
  rcases arguments with _ | ⟨argument, rest⟩
  · simp [hookOf, BeginsWithType]
  · cases argument <;> simp [hookOf, BeginsWithType]

theorem forall_mem_zipIdx_iff {applications : List (List AttributeArgument)} {start : Nat} :
    (∀ application ∈ applications.zipIdx start, BeginsWithType application.1) ↔
      ∀ arguments ∈ applications, BeginsWithType arguments := by
  rw [← List.forall_mem_map, List.zipIdx_map_fst]

theorem hooksOf_eq_ok_iff {subject : String} {applications : List (List AttributeArgument)}
    {hooks : List TypeHandle} :
    hooksOf subject applications = .ok hooks ↔ List.Forall₂ NamesHook applications hooks := by
  simp only [hooksOf_eq_mapM, mapM_eq_ok, hookOf_eq_ok_iff]
  rw [← List.forall₂_map_left_iff (f := Prod.fst) (R := NamesHook), List.zipIdx_map_fst]

/-- The first application that does not begin with a type is the one that the complaint is about,
and its position is the number of applications before it. -/
theorem hooksOf_eq_error_iff {subject : String} {applications : List (List AttributeArgument)}
    {error : DescriptorError} :
    hooksOf subject applications = .error error ↔
      ∃ before bad after, applications = before ++ bad :: after ∧
        (∀ arguments ∈ before, BeginsWithType arguments) ∧ ¬BeginsWithType bad ∧
        .malformedHook subject before.length bad.head? = error := by
  simp only [hooksOf_eq_mapM, mapM_eq_error, answered_hookOf_iff, hookOf_eq_error_iff]
  constructor
  · rintro ⟨before, ⟨bad, position⟩, after, hsplit, hbefore, hbad, rfl⟩
    obtain ⟨firsts, rest, rfl, rfl, hrest⟩ := List.zipIdx_eq_append_iff.mp hsplit
    obtain ⟨_, _, rfl, heq, -⟩ := List.zipIdx_eq_cons_iff.mp hrest.symm
    cases heq
    refine ⟨firsts, bad, _, rfl, ?_, hbad, by rw [Nat.zero_add]⟩
    rwa [forall_mem_zipIdx_iff] at hbefore
  · rintro ⟨before, bad, after, rfl, hbefore, hbad, rfl⟩
    refine ⟨before.zipIdx, (bad, before.length), after.zipIdx (before.length + 1), ?_,
      forall_mem_zipIdx_iff.mpr hbefore, hbad, rfl⟩
    rw [List.zipIdx_append, List.zipIdx_cons, Nat.zero_add]

theorem answered_hooksOf_iff (subject : String) (applications : List (List AttributeArgument)) :
    Answered (hooksOf subject applications) ↔
      ∀ arguments ∈ applications, BeginsWithType arguments := by
  rw [hooksOf_eq_mapM, answered_mapM_iff]
  simp only [answered_hookOf_iff, forall_mem_zipIdx_iff]

/-- A type has no descriptor exactly if one of its hooks is malformed. -/
theorem build_eq_error_iff {program : Program} {runtime : RuntimeTypes} {ty : TypeHandle}
    {members : List MemberDescriptor} {answer : Except DescriptorError TypeDescriptor}
    (hbuild : build program runtime ty members = .ok answer) :
    (∃ error, answer = .error error) ↔ program.HasMalformedHook ty := by
  obtain ⟨display, decl, -, hdecl, hhooks, -⟩ := build_eq_ok hbuild
  have hsound := answered_hooksOf_iff display (decl.capabilityArguments .serializationCallbacks)
  have hmalformed : program.HasMalformedHook ty ↔
      ¬∀ arguments ∈ decl.capabilityArguments .serializationCallbacks,
        BeginsWithType arguments := by
    simp only [Program.HasMalformedHook, hdecl, Except.ok.injEq, exists_eq_left',
      TypeDecl.mem_capabilityArguments, not_forall]
    constructor
    · rintro ⟨applied, hmem, hmarker, hbad⟩
      exact ⟨_, ⟨applied, hmem, hmarker, rfl⟩, hbad⟩
    · rintro ⟨_, ⟨applied, hmem, hmarker, rfl⟩, hbad⟩
      exact ⟨applied, hmem, hmarker, hbad⟩
  rw [hmalformed, ← hsound, ← hhooks]
  cases answer <;> simp [Answered, Except.map]

end TypeDescriptor

end TypeMetadata
