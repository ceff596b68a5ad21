import TypeMetadata.Proofs.Program.WellFormed
import TypeMetadata.Proofs.Text.Joined

/-!
The scopes around a type and the name that they give it, said by the nesting of types alone.
-/

namespace TypeMetadata

/-- The global scope is not written. It has no name, or the empty one. -/
theorem qualify_joined (scopes : List String) (name : String) :
    qualify (Text.joined "." scopes) name =
      if scopes = [""] then name else Text.joined "." (scopes ++ [name]) := by
  have hempty : Text.joined "." scopes = "" ↔ scopes = [] ∨ scopes = [""] :=
    Text.joined_eq_empty_iff (by decide)
  by_cases hglobal : scopes = [""]
  · rw [if_pos hglobal, qualify, if_pos (String.isEmpty_iff.mpr (hempty.mpr (.inr hglobal)))]
  · rw [if_neg hglobal, qualify]
    by_cases hnone : scopes = []
    · rw [hnone]
      rfl
    · rw [if_neg, Text.joined_concat "." hnone]
      · rfl
      · rw [String.isEmpty_iff, hempty]
        exact not_or.mpr ⟨hnone, hglobal⟩

namespace Program

variable {program : Program} {ty : TypeHandle}

/-- The names of the scopes around a type, from the outside in: the namespace of the outermost type,
if that type has one, and the names of the types around. -/
inductive StandsIn (program : Program) : TypeHandle → List String → Prop
  | outermost {ty : TypeHandle} {decl : TypeDecl} (hdecl : program.decl ty = .ok decl)
      (houtermost : decl.container = none) : StandsIn program ty decl.namespaceName.toList
  | nested {ty container : TypeHandle} {decl outer : TypeDecl} {scopes : List String}
      (hdecl : program.decl ty = .ok decl) (hcontainer : decl.container = some container)
      (houter : program.decl container = .ok outer) (hscopes : StandsIn program container scopes) :
      StandsIn program ty (scopes ++ [outer.name])

theorem StandsIn.unique {first second : List String} (hfirst : program.StandsIn ty first)
    (hsecond : program.StandsIn ty second) : first = second := by
  induction hfirst generalizing second with
  | outermost hdecl houtermost =>
      cases hsecond with
      | outermost hother _ =>
          rw [hdecl, Except.ok.injEq] at hother
          rw [hother]
      | nested hother hcontainer _ _ =>
          rw [hdecl, Except.ok.injEq] at hother
          rw [← hother, houtermost] at hcontainer
          cases hcontainer
  | nested hdecl hcontainer houter _ ih =>
      cases hsecond with
      | outermost hother houtermost =>
          rw [hdecl, Except.ok.injEq] at hother
          rw [← hother, hcontainer] at houtermost
          cases houtermost
      | nested hother hsame hsecondOuter hscopes =>
          rw [hdecl, Except.ok.injEq] at hother
          rw [← hother, hcontainer, Option.some_inj] at hsame
          subst hsame
          rw [houter, Except.ok.injEq] at hsecondOuter
          rw [ih hscopes, hsecondOuter]

/-- What holds of the namespaces of outermost types and of the names of all types holds of every
scope. -/
theorem StandsIn.forall_mem {motive : String → Prop}
    (hspace : ∀ ty decl, program.decl ty = .ok decl → decl.container = none →
      ∀ space ∈ decl.namespaceName, motive space)
    (hname : ∀ ty decl, program.decl ty = .ok decl → motive decl.name) {scopes : List String}
    (hscopes : program.StandsIn ty scopes) : ∀ scope ∈ scopes, motive scope := by
  induction hscopes with
  | outermost hdecl houtermost =>
      intro scope hscope
      exact hspace _ _ hdecl houtermost scope (Option.mem_toList.mp hscope)
  | nested _ _ houter _ ih =>
      intro scope hscope
      rcases List.mem_append.mp hscope with hscope | hscope
      · exact ih scope hscope
      · rw [List.mem_singleton.mp hscope]
        exact hname _ _ houter

theorem Walks.standsIn {around : List (TypeHandle × TypeDecl)} (hwalk : program.Walks ty around) :
    program.StandsIn ty (scopesOf (around.map Prod.snd)) := by
  induction hwalk with
  | outermost hdecl houtermost => simpa [scopesOf] using StandsIn.outermost hdecl houtermost
  | nested hdecl hcontainer hrest ih =>
      cases hrest with
      | outermost houter _ =>
          simpa [scopesOf] using StandsIn.nested hdecl hcontainer houter ih
      | nested houter _ _ =>
          simpa [scopesOf, List.getLast?_cons_cons] using
            StandsIn.nested hdecl hcontainer houter ih

theorem standsIn_of_scopeName {scope : String} (hscope : program.scopeName ty = .ok scope) :
    ∃ scopes, program.StandsIn ty scopes ∧ scope = Text.joined "." scopes := by
  rw [scopeName, bind_eq_ok] at hscope
  obtain ⟨around, haround, hscope⟩ := hscope
  rw [pure_eq_ok] at hscope
  exact ⟨_, (enclosing_eq_ok_iff.mp haround).1.standsIn, hscope.symm⟩

theorem StandsIn.index_lt_size {scopes : List String} (hscopes : program.StandsIn ty scopes) :
    ty.index < program.size := by
  cases hscopes with
  | outermost hdecl _ => exact index_lt_size_of_decl hdecl
  | nested hdecl _ _ _ => exact index_lt_size_of_decl hdecl

theorem WellFormed.scopeName_eq_ok_iff (hwell : program.WellFormed) {scope : String} :
    program.scopeName ty = .ok scope ↔
      ∃ scopes, program.StandsIn ty scopes ∧ scope = Text.joined "." scopes := by
  constructor
  · exact standsIn_of_scopeName
  · rintro ⟨scopes, hscopes, rfl⟩
    obtain ⟨scope, hscope⟩ := hwell.scopeName_answered hscopes.index_lt_size
    obtain ⟨found, hfound, rfl⟩ := standsIn_of_scopeName hscope
    rw [hscope, hfound.unique hscopes]

/-- The qualified name of a type is made of the names of the scopes around it and its own. -/
theorem WellFormed.qualifiedName_eq_ok_iff (hwell : program.WellFormed) {name : String} :
    program.qualifiedName ty = .ok name ↔
      ∃ scopes decl, program.StandsIn ty scopes ∧ program.decl ty = .ok decl ∧
        name = if scopes = [""] then decl.name else Text.joined "." (scopes ++ [decl.name]) := by
  simp only [qualifiedName, bind_eq_ok, pure_eq_ok, hwell.scopeName_eq_ok_iff]
  constructor
  · rintro ⟨_, ⟨scopes, hscopes, rfl⟩, decl, hdecl, rfl⟩
    exact ⟨scopes, decl, hscopes, hdecl, qualify_joined scopes decl.name⟩
  · rintro ⟨scopes, decl, hscopes, hdecl, rfl⟩
    exact ⟨_, ⟨scopes, hscopes, rfl⟩, decl, hdecl, qualify_joined scopes decl.name⟩

end Program

end TypeMetadata
