import TypeMetadata.Proofs.Program.Closure
import TypeMetadata.Proofs.Program.IdleNamespaces

/-!
Names of nested types. If no name is empty, then the scope of a nested type is called like its
container, at whatever depth, and what is generated for the type goes into the namespace of that
name below the root.
-/

namespace TypeMetadata

/-- A type has a name that is not empty, and so has its namespace, if it is given one. -/
structure TypeDecl.Named (decl : TypeDecl) : Prop where
  name_ne : decl.name ≠ ""
  namespace_ne : ∀ space ∈ decl.namespaceName, space ≠ ""

theorem qualify_of_ne_empty {scope : String} (hscope : scope ≠ "") (name : String) :
    qualify scope name = scope ++ "." ++ name := by
  rw [qualify, if_neg (mt String.isEmpty_iff.mp hscope)]
  rfl

/-! ### Generated namespaces -/

namespace RuntimeTypes

variable {runtime : RuntimeTypes} {scope other : String}

theorem generatedNamespace_of_ne_empty (hscope : scope ≠ "") :
    runtime.generatedNamespace scope = runtime.namespaceRoot ++ "." ++ scope := by
  rw [generatedNamespace, if_neg (mt String.isEmpty_iff.mp hscope)]
  rfl

theorem generatedNamespace_empty : runtime.generatedNamespace "" = runtime.namespaceRoot :=
  rfl

/-- The root alone is shorter than anything below it. -/
theorem generatedNamespace_ne_root (hscope : scope ≠ "") :
    runtime.generatedNamespace scope ≠ runtime.namespaceRoot := by
  intro heq
  have hlength := congrArg String.length heq
  rw [generatedNamespace_of_ne_empty hscope, String.length_append, String.length_append] at hlength
  have hdot : ".".length = 1 := rfl
  omega

theorem generatedNamespace_inj :
    runtime.generatedNamespace scope = runtime.generatedNamespace other ↔ scope = other := by
  refine ⟨?_, congrArg runtime.generatedNamespace⟩
  intro heq
  by_cases hscope : scope = ""
  · by_cases hother : other = ""
    · rw [hscope, hother]
    · rw [hscope, generatedNamespace_empty] at heq
      exact absurd heq.symm (generatedNamespace_ne_root hother)
  · by_cases hother : other = ""
    · rw [hother, generatedNamespace_empty] at heq
      exact absurd heq (generatedNamespace_ne_root hscope)
    · rw [generatedNamespace_of_ne_empty hscope, generatedNamespace_of_ne_empty hother] at heq
      exact (String.append_right_inj _).mp heq

end RuntimeTypes

namespace Program

/-- A nested type stands where its container is. -/
theorem WellFormed.scopeName_nested {program : Program} {ty container : TypeHandle}
    {decl : TypeDecl} (hwell : program.WellFormed)
    (hnamed : ∀ ty decl, program.decl ty = .ok decl → decl.Named)
    (hdecl : program.decl ty = .ok decl) (hcontainer : decl.container = some container) :
    ∃ outer, outer ≠ "" ∧ program.qualifiedName container = .ok outer ∧
      program.scopeName ty = .ok outer := by
  have hissued : container.index < program.size :=
    Nat.lt_trans (hwell.index_lt_of_container hdecl hcontainer) (index_lt_size_of_decl hdecl)
  obtain ⟨outer, houter⟩ := hwell.qualifiedName_answered hissued
  obtain ⟨scopes, outerDecl, hscopes, houterDecl, hname⟩ := hwell.qualifiedName_eq_ok_iff.mp houter
  have hscopesNamed : ∀ scope ∈ scopes, scope ≠ "" :=
    hscopes.forall_mem (fun ty decl hdecl _ => (hnamed ty decl hdecl).namespace_ne)
      fun ty decl hdecl => (hnamed ty decl hdecl).name_ne
  have hglobal : scopes ≠ [""] := by
    rintro rfl
    exact hscopesNamed "" List.mem_cons_self rfl
  rw [if_neg hglobal] at hname
  have hempty : outer ≠ "" := by
    rw [hname, ne_eq, Text.joined_eq_empty_iff (by decide), List.append_eq_nil_iff, not_or]
    refine ⟨fun hnil => List.cons_ne_nil _ _ hnil.2, ?_⟩
    intro hone
    have hlast : outerDecl.name ∈ [""] := hone ▸ List.mem_append_right scopes List.mem_cons_self
    exact (hnamed container outerDecl houterDecl).name_ne (List.mem_singleton.mp hlast)
  refine ⟨outer, hempty, houter, ?_⟩
  rw [hwell.scopeName_eq_ok_iff]
  exact ⟨_, .nested hdecl hcontainer houterDecl hscopes, hname⟩

/-- The qualified name of a nested type is that of its container, a dot and its own name, and the
container's name below the root is the generated namespace. A namespace of its own is idle. Types
have the same generated namespace only if they stand in scopes of the same name. -/
theorem nested_names_extend_container {history : List Declaration} {program : Program}
    (hdeclare : empty.declareAll history = .ok program)
    (hnamed : ∀ decl, Declaration.type decl ∈ history → decl.Named) :
    (∀ ty decl container, program.decl ty = .ok decl → decl.container = some container →
      ∃ outer, program.qualifiedName container = .ok outer ∧ program.scopeName ty = .ok outer ∧
        program.qualifiedName ty = .ok (outer ++ "." ++ decl.name) ∧
        ∀ runtime : RuntimeTypes,
          runtime.generatedNamespace outer = runtime.namespaceRoot ++ "." ++ outer) ∧
      (∀ ty decl, program.decl ty = .ok decl → decl.container = none →
        program.scopeName ty = .ok (decl.namespaceName.getD "")) ∧
      (∀ others, List.Forall₂ Declaration.Alike history others →
        ∃ other, empty.declareAll others = .ok other ∧ program.SameNames other) ∧
      ∀ first second, first.index < program.size → second.index < program.size →
        ∃ scope another, program.scopeName first = .ok scope ∧
          program.scopeName second = .ok another ∧ ∀ runtime : RuntimeTypes,
            runtime.generatedNamespace scope = runtime.generatedNamespace another ↔
              scope = another := by
  have hwell := wellFormed_empty.declareAll hdeclare
  have hrecorded := recorded_empty.declareAll hdeclare
  have hdecls : ∀ ty decl, program.decl ty = .ok decl → decl.Named := fun ty decl hdecl =>
    hnamed decl (hrecorded.decl_mem ty decl hdecl)
  refine ⟨?_, ?_, ?_, ?_⟩
  · intro ty decl container hdecl hcontainer
    obtain ⟨outer, hne, houter, hscope⟩ := hwell.scopeName_nested hdecls hdecl hcontainer
    refine ⟨outer, houter, hscope, ?_, fun runtime =>
      RuntimeTypes.generatedNamespace_of_ne_empty hne⟩
    rw [qualifiedName, hscope, hdecl, ← qualify_of_ne_empty hne]
    rfl
  · intro ty decl hdecl houtermost
    rw [hwell.scopeName_eq_ok_iff]
    refine ⟨_, .outermost hdecl houtermost, ?_⟩
    cases decl.namespaceName <;> rfl
  · intro others hothers
    exact sameNames_of_declareAll hothers hdeclare
  · intro first second hfirst hsecond
    obtain ⟨scope, hscope⟩ := hwell.scopeName_answered hfirst
    obtain ⟨another, hanother⟩ := hwell.scopeName_answered hsecond
    exact ⟨scope, another, hscope, hanother, fun runtime => RuntimeTypes.generatedNamespace_inj⟩

/-! ### Types in types in a type -/

namespace Nested

/-- Two types inside one, of which each gives a namespace that does not count. -/
def history : List Declaration := [
  .type ((TypeDecl.ofClass "Shop").inNamespace "App"),
  .type (((TypeDecl.ofClass "Cart").inNamespace "Idle").nestedIn ⟨0⟩),
  .type (((TypeDecl.ofClass "Line").inNamespace "App").nestedIn ⟨1⟩)]

/-- The same types with other idle namespaces. -/
def others : List Declaration := [
  .type ((TypeDecl.ofClass "Shop").inNamespace "App"),
  .type ((TypeDecl.ofClass "Cart").nestedIn ⟨0⟩),
  .type (((TypeDecl.ofClass "Line").inNamespace "Other").nestedIn ⟨1⟩)]

def program : Program :=
  (empty.declareAll history).toOption.getD empty

theorem named_history : ∀ decl, Declaration.type decl ∈ history → decl.Named := by
  intro decl hdecl
  simp only [history, List.mem_cons, Declaration.type.injEq, List.not_mem_nil, or_false] at hdecl
  obtain rfl | rfl | rfl := hdecl
  all_goals exact ⟨by decide, by rintro _ ⟨⟩; decide⟩

theorem alike_others : List.Forall₂ Declaration.Alike history others := by
  refine .cons (.type .same) (.cons (.type ?_) (.cons (.type ?_) .nil))
  · exact .nested (by decide) none
  · exact .nested (by decide) (some "Other")

end Nested

theorem nested_names_extend_container_of_line :
    empty.declareAll Nested.history = .ok Nested.program ∧
      (∀ decl, Declaration.type decl ∈ Nested.history → decl.Named) ∧
      List.Forall₂ Declaration.Alike Nested.history Nested.others ∧
      Nested.program.scopeName ⟨2⟩ = .ok "App.Shop.Cart" ∧
      ∃ other, empty.declareAll Nested.others = .ok other ∧
        other.qualifiedName ⟨2⟩ = .ok ("App.Shop.Cart" ++ "." ++ "Line") := by
  have hdeclare : empty.declareAll Nested.history = .ok Nested.program := rfl
  obtain ⟨hnested, -, hothers, -⟩ := nested_names_extend_container hdeclare Nested.named_history
  obtain ⟨outer, houter, hscope, hname, -⟩ := hnested ⟨2⟩ _ ⟨1⟩ rfl rfl
  obtain ⟨other, hother, hsame⟩ := hothers Nested.others Nested.alike_others
  have hcart : Nested.program.qualifiedName ⟨1⟩ = .ok "App.Shop.Cart" := rfl
  rw [hcart, Except.ok.injEq] at houter
  subst houter
  refine ⟨hdeclare, Nested.named_history, Nested.alike_others, hscope, other, hother, ?_⟩
  exact (hsame.qualifiedName ⟨2⟩ _).mpr hname

end Program

end TypeMetadata
