import Mathlib.Data.List.Chain
import TypeMetadata.Proofs.Program.Accessibility
import TypeMetadata.Proofs.Program.Lookup

/-!
The walk from a type out of its containers. Nothing counts its steps, and a container is any handle
that the declaration gives. But only a container that is there already can be declared in, so the
handles fall on the way out, and the walk is over before they run out.
-/

namespace TypeMetadata.Program

section

variable {history : List Declaration} {program : Program}
variable {ty : TypeHandle} {decl : TypeDecl} {around : List (TypeHandle × TypeDecl)}

/-! ### Nesting paths -/

theorem Walks.isChain (hwalk : program.Walks ty around) :
    (around.map Prod.fst).IsChain fun inner outer => program.Contains outer inner := by
  induction hwalk with
  | outermost hdecl houtermost => exact .singleton _
  | nested hdecl hcontainer hrest ih =>
      rw [List.map_cons, List.isChain_cons]
      refine ⟨?_, ih⟩
      intro container hfirst
      rw [hrest.map_head?_eq, ← hcontainer] at hfirst
      exact ⟨_, hdecl, hfirst⟩

theorem Walks.exists_outermost (hwalk : program.Walks ty around) :
    ∃ outermost decl, (around.map Prod.fst).getLast? = some outermost ∧
      program.decl outermost = .ok decl ∧ decl.container = none := by
  induction hwalk with
  | outermost hdecl houtermost => exact ⟨_, _, rfl, hdecl, houtermost⟩
  | nested _ _ hrest ih =>
      obtain ⟨outermost, decl, hlast, hdecl, houtermost⟩ := ih
      refine ⟨outermost, decl, ?_, hdecl, houtermost⟩
      rw [List.map_cons, List.getLast?_cons, hlast]
      rfl

/-- A way from an outermost type in to a type, with each type in the one before. -/
structure IsNestingPath (program : Program) (ty : TypeHandle) (path : List TypeHandle) : Prop where
  starts : ∃ outermost decl, path.head? = some outermost ∧ program.decl outermost = .ok decl ∧
    decl.container = none
  isChain : path.IsChain program.Contains
  ends : path.getLast? = some ty

theorem IsNestingPath.ne_nil {path : List TypeHandle} (hpath : program.IsNestingPath ty path) :
    path ≠ [] := by
  rintro rfl
  cases hpath.ends

theorem Walks.isNestingPath (hwalk : program.Walks ty around) :
    program.IsNestingPath ty (around.map Prod.fst).reverse where
  starts := by
    rw [List.head?_reverse]
    exact hwalk.exists_outermost
  isChain := List.isChain_reverse.mpr hwalk.isChain
  ends := by
    rw [List.getLast?_reverse]
    exact hwalk.map_head?_eq

theorem WellFormed.pairwise_of_isNestingPath (hwell : program.WellFormed) {path : List TypeHandle}
    (hpath : program.IsNestingPath ty path) :
    path.Pairwise fun outer inner => outer.index < inner.index := by
  have hchain : path.IsChain fun outer inner => outer.index < inner.index := by
    apply hpath.isChain.imp
    rintro outer inner ⟨decl, hdecl, hcontainer⟩
    exact hwell.index_lt_of_container hdecl hcontainer
  have htrans : IsTrans TypeHandle fun outer inner => outer.index < inner.index :=
    ⟨fun _ _ _ => Nat.lt_trans⟩
  exact hchain.pairwise

/-! ### Declared types -/

theorem qualifiedName_answered_of_walks (hdecl : program.decl ty = .ok decl)
    (hwalk : program.Walks ty around) (hlength : around.length ≤ program.size) :
    Answered (program.qualifiedName ty) := by
  have henclosing : program.enclosing ty = .ok around :=
    enclosing_eq_ok_iff.mpr ⟨hwalk, hlength⟩
  have hscope : Answered (program.scopeName ty) :=
    Answered.bind ⟨around, henclosing⟩ fun _ _ => answered_pure _
  exact hscope.bind fun _ _ => Answered.bind ⟨decl, hdecl⟩ fun _ _ => answered_pure _

theorem decl_withType_last (hsize : program.size < UInt32.size) (decl : TypeDecl) :
    (program.withType decl).decl (.ofIndex program.size) = .ok decl :=
  decl_eq_ok.mpr
    ⟨_, entry_withType.mpr (.inr ⟨TypeHandle.index_ofIndex hsize, rfl⟩), rfl⟩

/-- A type can be declared exactly if the type that it is to stand in was declared before. -/
theorem WellFormed.declare_answered_iff (hwell : program.WellFormed)
    (hsize : program.size < UInt32.size) (decl : TypeDecl) :
    Answered (program.declare decl) ↔
      ∀ container ∈ decl.container, container.index < program.size := by
  have hdecl := decl_withType_last hsize decl
  have hindex := TypeHandle.index_ofIndex hsize
  have hgrown : (program.withType decl).size = program.size + 1 := Array.size_push _
  constructor
  · rintro ⟨_, hdeclare⟩ container hcontainer
    obtain ⟨name, hname, -⟩ := bind_eq_ok.mp hdeclare
    rw [← hindex] at hgrown ⊢
    exact container_lt_of_qualifiedName hgrown hname hdecl hcontainer
  · intro hearlier
    obtain ⟨around, hwalk, hlength⟩ : ∃ around,
        (program.withType decl).Walks (.ofIndex program.size) around ∧
          around.length ≤ program.size + 1 := by
      cases hcontainer : decl.container with
      | none => exact ⟨_, .outermost hdecl hcontainer, Nat.succ_pos _⟩
      | some container =>
          have hissued := hearlier container hcontainer
          obtain ⟨outer, hwalk, hlength⟩ := hwell.exists_walks hissued
          exact ⟨_, .nested hdecl hcontainer ((extends_withType program decl).walks hwalk),
            Nat.succ_le_succ (hlength.trans hissued)⟩
    rw [← hgrown] at hlength
    have hname := qualifiedName_answered_of_walks hdecl hwalk hlength
    exact hname.bind fun _ _ => answered_pure _

/-- A type that was declared stands in earlier types only, as no other can be declared. So the walk
out of it comes to no more types than its handle allows, and read backwards it is the nesting path,
on which handles rise. The accessibilities that narrow down what may be seen are met on the same
walk. -/
theorem walks_end_at_outermost (hdeclare : empty.declareAll history = .ok program)
    (hsize : program.size < UInt32.size) :
    (∀ ty decl container, program.decl ty = .ok decl → decl.container = some container →
        container.index < ty.index) ∧
      (∀ decl, Answered (program.declare decl) ↔
        ∀ container ∈ decl.container, container.index < program.size) ∧
      ∀ ty, ty.index < program.size → ∃ around path,
        program.Walks ty around ∧ around.length ≤ ty.index + 1 ∧
        program.nestingPath ty = .ok path ∧ path = (around.map Prod.fst).reverse ∧
        program.effectiveAccessibility ty =
          .ok ((around.map fun (_, decl) => decl.accessibility).foldl .restrict .everyone) ∧
        program.IsNestingPath ty path ∧ path ≠ [] ∧
        path.Pairwise fun outer inner => outer.index < inner.index := by
  have hwell := wellFormed_empty.declareAll hdeclare
  refine ⟨fun ty decl container => hwell.index_lt_of_container, hwell.declare_answered_iff hsize,
    ?_⟩
  intro ty hissued
  obtain ⟨around, hwalk, hlength⟩ := hwell.exists_walks hissued
  have henclosing : program.enclosing ty = .ok around :=
    enclosing_eq_ok_iff.mpr ⟨hwalk, hlength.trans hissued⟩
  have hpath := hwalk.isNestingPath
  refine ⟨around, _, hwalk, hlength, ?_, rfl, ?_, hpath, hpath.ne_nil,
    hwell.pairwise_of_isNestingPath hpath⟩
  · rw [nestingPath, henclosing]
    rfl
  · rw [effectiveAccessibility, henclosing]
    rfl

end

/-! ### A type two types deep -/

namespace Dolls

/-- The container of the last type is neither the first type nor the one right before it. -/
def history : List Declaration := [
  .type (TypeDecl.ofClass "Large"),
  .type ((TypeDecl.ofClass "Middle").nestedIn ⟨0⟩),
  .type (TypeDecl.ofClass "Vase"),
  .type ((TypeDecl.ofClass "Small").nestedIn ⟨1⟩)]

def program : Program :=
  (empty.declareAll history).toOption.getD empty

def stray : TypeDecl := (TypeDecl.ofClass "Stray").nestedIn ⟨7⟩

end Dolls

theorem walks_end_at_outermost_of_small :
    empty.declareAll Dolls.history = .ok Dolls.program ∧ Dolls.program.size < UInt32.size ∧
      Dolls.program.nestingPath ⟨3⟩ = .ok [⟨0⟩, ⟨1⟩, ⟨3⟩] ∧
      Dolls.program.IsNestingPath ⟨3⟩ [⟨0⟩, ⟨1⟩, ⟨3⟩] ∧
      (∃ around, Dolls.program.Walks ⟨3⟩ around ∧ around.length ≤ 4) ∧
      ¬Answered (Dolls.program.declare Dolls.stray) := by
  have hdeclare : empty.declareAll Dolls.history = .ok Dolls.program := rfl
  have hsize : Dolls.program.size < UInt32.size := by decide
  have hpath : Dolls.program.nestingPath ⟨3⟩ = .ok [⟨0⟩, ⟨1⟩, ⟨3⟩] := rfl
  obtain ⟨-, hdeclared, hwalks⟩ := walks_end_at_outermost hdeclare hsize
  obtain ⟨around, path, hwalk, hlength, hfound, -, -, hnesting, -⟩ := hwalks ⟨3⟩ (by decide)
  rw [hpath, Except.ok.injEq] at hfound
  subst hfound
  refine ⟨hdeclare, hsize, hpath, hnesting, ⟨around, hwalk, hlength⟩, ?_⟩
  rw [hdeclared]
  decide

end TypeMetadata.Program
