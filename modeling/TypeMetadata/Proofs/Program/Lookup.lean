import TypeMetadata.Proofs.Program.Extension
import TypeMetadata.Proofs.Program.Scope
import TypeMetadata.RuntimeTypes

/-!
Looking up types by name. The table of names is written when a type is declared and not touched
again, and yet it agrees with the names that the program gives to its types at any later time: each
name leads to the type that was declared last under it.
-/

namespace TypeMetadata

theorem TypeHandle.index_ofIndex {index : Nat} (hindex : index < UInt32.size) :
    (TypeHandle.ofIndex index).index = index :=
  Nat.mod_eq_of_lt hindex

namespace Program

variable {program earlier later next : Program} {ty : TypeHandle} {name : String}

/-- A type has a name, and so has no type that was declared after it. -/
structure IsLatest (program : Program) (name : String) (ty : TypeHandle) : Prop where
  qualifiedName : program.qualifiedName ty = .ok name
  index_le : ∀ other, program.qualifiedName other = .ok name → other.index ≤ ty.index

/-- The table of names has the latest type of each name, and nothing else. -/
def LeadsToLatest (program : Program) : Prop :=
  ∀ name ty, program.resolve? name = some ty ↔ program.IsLatest name ty

theorem index_lt_size_of_qualifiedName (hname : program.qualifiedName ty = .ok name) :
    ty.index < program.size := by
  obtain ⟨around, hwalk⟩ := walks_of_qualifiedName hname
  exact hwalk.index_lt_size

theorem isLatest_iff :
    program.IsLatest name ty ↔ program.qualifiedName ty = .ok name ∧
      ∀ index < program.size, program.qualifiedName (.ofIndex index) = .ok name →
        (TypeHandle.ofIndex index).index ≤ ty.index := by
  constructor
  · rintro ⟨hname, hle⟩
    exact ⟨hname, fun index _ hother => hle (.ofIndex index) hother⟩
  · rintro ⟨hname, hle⟩
    refine ⟨hname, ?_⟩
    intro other hother
    have hindex := hle other.index (index_lt_size_of_qualifiedName hother)
    rw [other.ofIndex_index] at hindex
    exact hindex hother

instance : Decidable (program.IsLatest name ty) :=
  decidable_of_iff _ isLatest_iff.symm

theorem Extends.qualifiedName_iff (hextends : earlier.Extends later) (hwell : earlier.WellFormed)
    (hissued : ty.index < earlier.size) :
    later.qualifiedName ty = .ok name ↔ earlier.qualifiedName ty = .ok name := by
  obtain ⟨found, hearlier, hlater⟩ :=
    (hwell.qualifiedName_answered hissued).sameAnswer (hextends.qualifiedName ty)
  rw [hearlier, hlater]

theorem isLatest_congr (hnames : ∀ other, later.qualifiedName other = .ok name ↔
    earlier.qualifiedName other = .ok name) :
    later.IsLatest name ty ↔ earlier.IsLatest name ty := by
  constructor
  · rintro ⟨hname, hle⟩
    exact ⟨(hnames ty).mp hname, fun other hother => hle other ((hnames other).mpr hother)⟩
  · rintro ⟨hname, hle⟩
    exact ⟨(hnames ty).mpr hname, fun other hother => hle other ((hnames other).mp hother)⟩

/-! ### One declaration -/

/-- The table of names has no part in any other answer. -/
theorem extends_renamed (program : Program) (byName : Std.ExtTreeMap String TypeHandle) :
    program.Extends { program with byName } := by
  obtain ⟨hentry, hmember, hsize⟩ := Extends.refl program
  exact ⟨hentry, hmember, hsize⟩

theorem resolve?_insert (types : Array TypeEntry) (members : Array MemberEntry)
    (byName : Std.ExtTreeMap String TypeHandle) (name query : String) (ty : TypeHandle) :
    (Program.mk types members (byName.insert name ty)).resolve? query =
      if name = query then some ty else byName[query]? := by
  simp only [resolve?, Std.ExtTreeMap.getElem?_insert, Std.LawfulEqCmp.compare_eq_iff_eq]

/-- A new type takes over its name and leaves the other names alone. -/
theorem isLatest_of_last (hextends : earlier.Extends later) (hwell : earlier.WellFormed)
    (hsize : later.size = earlier.size + 1) (hlast : ty.index = earlier.size)
    (hname : later.qualifiedName ty = .ok name) (query : String) (other : TypeHandle) :
    later.IsLatest query other ↔
      if name = query then ty = other else earlier.IsLatest query other := by
  have hcases : ∀ {third : TypeHandle} {called : String},
      later.qualifiedName third = .ok called → third = ty ∨ third.index < earlier.size := by
    intro third called hthird
    have hlt := index_lt_size_of_qualifiedName hthird
    by_cases heq : third.index = earlier.size
    · exact .inl (TypeHandle.index_inj (heq.trans hlast.symm))
    · exact .inr (by omega)
  split
  · rename_i hquery
    subst hquery
    constructor
    · intro hlatest
      have hle := hlatest.index_le ty hname
      rcases hcases hlatest.qualifiedName with heq | hlt
      · exact heq.symm
      · omega
    · rintro rfl
      refine ⟨hname, ?_⟩
      intro third hthird
      have hlt := index_lt_size_of_qualifiedName hthird
      omega
  · rename_i hquery
    apply isLatest_congr
    -- A type of another name is an old one.
    intro third
    constructor
    · intro hthird
      rcases hcases hthird with rfl | hlt
      · rw [hname, Except.ok.injEq] at hthird
        exact absurd hthird hquery
      · exact (hextends.qualifiedName_iff hwell hlt).mp hthird
    · exact hextends.qualifiedName third query

theorem isLatest_iff_of_same_size (hextends : earlier.Extends later) (hwell : earlier.WellFormed)
    (hsize : later.size = earlier.size) :
    later.IsLatest name ty ↔ earlier.IsLatest name ty := by
  apply isLatest_congr
  intro other
  constructor
  · intro hother
    have hlt := index_lt_size_of_qualifiedName hother
    rw [hsize] at hlt
    exact (hextends.qualifiedName_iff hwell hlt).mp hother
  · exact hextends.qualifiedName other name

theorem LeadsToLatest.add {declaration : Declaration} (hlatest : program.LeadsToLatest)
    (hwell : program.WellFormed) (hadd : program.add declaration = .ok next)
    (hsize : next.size ≤ UInt32.size) : next.LeadsToLatest := by
  intro query other
  have hextends := extends_add hadd
  rcases add_cases hadd with ⟨decl, name, -, hname, rfl⟩ | ⟨owner, member, found, -, hfound, rfl⟩
  · have hgrown : (program.withType decl).size = program.size + 1 := Array.size_push _
    have hlast : (TypeHandle.ofIndex program.size).index = program.size :=
      TypeHandle.index_ofIndex (Nat.lt_of_succ_le (Nat.le_trans (Nat.le_of_eq hgrown.symm) hsize))
    have hrenamed :=
      extends_renamed (program.withType decl) (program.byName.insert name (.ofIndex program.size))
    have hnamed := hrenamed.qualifiedName _ _ hname
    rw [isLatest_of_last hextends hwell hgrown hlast hnamed, ← hlatest query other]
    change (Program.mk _ _ (program.byName.insert name _)).resolve? query = some other ↔ _
    rw [resolve?_insert]
    split
    · rw [Option.some_inj]
    · exact Iff.rfl
  · have hsame : (program.withMember owner found member).size = program.size :=
      Array.size_setIfInBounds
    rw [isLatest_iff_of_same_size hextends hwell hsame]
    exact hlatest query other

/-! ### Any number of declarations -/

theorem leadsToLatest_empty : empty.LeadsToLatest := by
  intro name ty
  have hnone : empty.resolve? name = none := Std.ExtTreeMap.getElem?_empty
  rw [hnone]
  constructor
  · intro hsome
    cases hsome
  · intro hlatest
    exact absurd (index_lt_size_of_qualifiedName hlatest.qualifiedName) (Nat.not_lt_zero _)

theorem leadsToLatest_of_declareAll {history : List Declaration}
    (hdeclare : empty.declareAll history = .ok program) (hsize : program.size ≤ UInt32.size) :
    program.LeadsToLatest := by
  have hkept : program.WellFormed ∧ (program.size ≤ UInt32.size → program.LeadsToLatest) := by
    refine declareAll_induction (motive := fun program =>
      program.WellFormed ∧ (program.size ≤ UInt32.size → program.LeadsToLatest)) ?_ ?_ hdeclare
    · exact ⟨wellFormed_empty, fun _ => leadsToLatest_empty⟩
    · rintro before after declaration ⟨hwell, hlatest⟩ hadd
      refine ⟨hwell.add hadd, fun hafter => ?_⟩
      have hbefore := Nat.le_trans (extends_add hadd).size_le hafter
      exact (hlatest hbefore).add hwell hadd hafter
  exact hkept.2 hsize

theorem exists_isLatest (hname : program.qualifiedName ty = .ok name) :
    ∃ latest, program.IsLatest name latest := by
  induction hleft : program.size - ty.index using Nat.strongRecOn generalizing ty with
  | ind left ih =>
      by_cases hlater : ∃ other, program.qualifiedName other = .ok name ∧ ty.index < other.index
      · obtain ⟨other, hother, hlt⟩ := hlater
        have hissued := index_lt_size_of_qualifiedName hother
        exact ih (program.size - other.index) (by omega) hother rfl
      · refine ⟨ty, hname, ?_⟩
        intro other hother
        exact Nat.le_of_not_lt fun hlt => hlater ⟨other, hother, hlt⟩

theorem LeadsToLatest.resolve?_eq_none_iff (hlatest : program.LeadsToLatest) :
    program.resolve? name = none ↔ ∀ ty, program.qualifiedName ty ≠ .ok name := by
  constructor
  · intro hnone ty hname
    obtain ⟨latest, hfound⟩ := exists_isLatest hname
    rw [(hlatest name latest).mpr hfound] at hnone
    cases hnone
  · intro hunnamed
    rw [Option.eq_none_iff_forall_ne_some]
    intro ty hsome
    exact hunnamed ty ((hlatest name ty).mp hsome).qualifiedName

end Program

/-! ### Runtime types -/

namespace RuntimeTypes

variable {program : Program} {config : Config}

theorem resolve_eq_ok_iff {runtime : RuntimeTypes} :
    RuntimeTypes.resolve program config = .ok runtime ↔
      program.resolve? config.runtimeNames.completionSource = some runtime.completionSource ∧
        program.resolve? config.runtimeNames.invokable = some runtime.invokable ∧
        runtime.namespaceRoot = config.namespaceRoot ∧
        runtime.dispatchMethod = config.dispatchMethod := by
  obtain ⟨namespaceRoot, dispatchMethod, completionSource, invokable⟩ := runtime
  simp only [resolve, resolveRole]
  cases program.resolve? config.runtimeNames.completionSource with
  | none => simp [bind, Except.bind]
  | some source =>
      cases program.resolve? config.runtimeNames.invokable with
      | none => simp [bind, Except.bind]
      | some call =>
          simp only [bind_eq_ok, pure_eq_ok, Except.ok.injEq, exists_eq_left', mk.injEq,
            Option.some_inj]
          constructor
          · rintro ⟨rfl, rfl, rfl, rfl⟩
            exact ⟨rfl, rfl, rfl, rfl⟩
          · rintro ⟨rfl, rfl, rfl, rfl⟩
            exact ⟨rfl, rfl, rfl, rfl⟩

/-- The completion source is looked up first. -/
theorem resolve_eq_error_iff {error : UnresolvedType} :
    RuntimeTypes.resolve program config = .error error ↔
      (program.resolve? config.runtimeNames.completionSource = none ∧
          error = ⟨.completionSource, config.runtimeNames.completionSource⟩) ∨
        (program.resolve? config.runtimeNames.completionSource ≠ none ∧
          program.resolve? config.runtimeNames.invokable = none ∧
          error = ⟨.invokable, config.runtimeNames.invokable⟩) := by
  simp only [resolve, resolveRole]
  cases program.resolve? config.runtimeNames.completionSource with
  | none => simp [bind, Except.bind, eq_comm]
  | some source =>
      cases program.resolve? config.runtimeNames.invokable with
      | none => simp [bind, Except.bind, eq_comm]
      | some call => simp [bind, Except.bind, pure, Except.pure]

end RuntimeTypes

namespace Program

/-- Whatever types share a qualified name, by nesting or by namespace, the name leads to the one
that was declared last, and the runtime types are those that the configured names lead to. -/
theorem names_lead_to_latest {program : Program} {history : List Declaration}
    (hdeclare : empty.declareAll history = .ok program) (hsize : program.size ≤ UInt32.size) :
    (∀ name ty, program.resolve? name = some ty ↔ program.IsLatest name ty) ∧
      (∀ name, program.resolve? name = none ↔ ∀ ty, program.qualifiedName ty ≠ .ok name) ∧
      (∀ ty, ty.index < program.size ↔ ∃ name, program.qualifiedName ty = .ok name) ∧
      (∀ ty name, program.qualifiedName ty = .ok name → ∃ latest,
        program.resolve? name = some latest ∧ program.qualifiedName latest = .ok name ∧
          ty.index ≤ latest.index) ∧
      (∀ ty name, program.qualifiedName ty = .ok name ↔ ∃ scopes decl,
        program.StandsIn ty scopes ∧ program.decl ty = .ok decl ∧
          name = if scopes = [""] then decl.name else Text.joined "." (scopes ++ [decl.name])) ∧
      ∀ config : Config,
        (∀ runtime, RuntimeTypes.resolve program config = .ok runtime ↔
          program.IsLatest config.runtimeNames.completionSource runtime.completionSource ∧
            program.IsLatest config.runtimeNames.invokable runtime.invokable ∧
            runtime.namespaceRoot = config.namespaceRoot ∧
            runtime.dispatchMethod = config.dispatchMethod) ∧
        ∀ error, RuntimeTypes.resolve program config = .error error ↔
          ((∀ ty, program.qualifiedName ty ≠ .ok config.runtimeNames.completionSource) ∧
              error = ⟨.completionSource, config.runtimeNames.completionSource⟩) ∨
            ((∃ ty, program.qualifiedName ty = .ok config.runtimeNames.completionSource) ∧
              (∀ ty, program.qualifiedName ty ≠ .ok config.runtimeNames.invokable) ∧
              error = ⟨.invokable, config.runtimeNames.invokable⟩) := by
  have hwell := wellFormed_empty.declareAll hdeclare
  have hlatest := leadsToLatest_of_declareAll hdeclare hsize
  refine ⟨hlatest, fun name => hlatest.resolve?_eq_none_iff, ?_, ?_, ?_, ?_⟩
  · intro ty
    constructor
    · exact hwell.qualifiedName_answered
    · rintro ⟨name, hname⟩
      exact index_lt_size_of_qualifiedName hname
  · intro ty name hname
    obtain ⟨latest, hfound⟩ := exists_isLatest hname
    exact ⟨latest, (hlatest name latest).mpr hfound, hfound.qualifiedName, hfound.index_le ty hname⟩
  · intro ty name
    exact hwell.qualifiedName_eq_ok_iff
  · intro config
    refine ⟨?_, ?_⟩
    · intro runtime
      rw [RuntimeTypes.resolve_eq_ok_iff, hlatest, hlatest]
    · intro error
      rw [RuntimeTypes.resolve_eq_error_iff, ne_eq, hlatest.resolve?_eq_none_iff,
        hlatest.resolve?_eq_none_iff]
      simp only [not_forall, not_not]

/-! ### Two types of one name -/

namespace Twins

/-- A type in a namespace, and one that stands in a type called like the namespace. -/
def history : List Declaration := [
  .type ((TypeDecl.ofInterface "Source").inNamespace "Rpc"),
  .type (TypeDecl.ofClass "Rpc"),
  .type (((TypeDecl.ofInterface "Source").withTypeParameter "T").nestedIn ⟨1⟩)]

def program : Program :=
  (empty.declareAll history).toOption.getD empty

def config : Config :=
  { Config.default with runtimeNames := ⟨"Rpc.Source", "Call"⟩ }

end Twins

theorem names_lead_to_latest_of_twins :
    empty.declareAll Twins.history = .ok Twins.program ∧ Twins.program.size ≤ UInt32.size ∧
      Twins.program.qualifiedName ⟨0⟩ = .ok "Rpc.Source" ∧
      Twins.program.resolve? "Rpc.Source" = some ⟨2⟩ ∧
      RuntimeTypes.resolve Twins.program Twins.config = .error ⟨.invokable, "Call"⟩ := by
  have hdeclare : empty.declareAll Twins.history = .ok Twins.program := rfl
  have hsize : Twins.program.size ≤ UInt32.size := by decide
  have hfirst : Twins.program.qualifiedName ⟨0⟩ = .ok "Rpc.Source" := rfl
  obtain ⟨hresolve, -, hissued, -, -, hruntime⟩ := names_lead_to_latest hdeclare hsize
  refine ⟨hdeclare, hsize, hfirst, ?_, ?_⟩
  · rw [hresolve]
    decide +kernel
  · refine ((hruntime Twins.config).2 _).mpr (.inr ⟨⟨_, hfirst⟩, ?_, rfl⟩)
    intro ty hname
    have hlt : ty.index < 3 := (hissued ty).mpr ⟨_, hname⟩
    have hnames : ∀ index < 3, Twins.program.qualifiedName (.ofIndex index) ≠ .ok "Call" := by
      decide +kernel
    rw [← ty.ofIndex_index] at hname
    exact hnames ty.index hlt hname

end Program

end TypeMetadata
