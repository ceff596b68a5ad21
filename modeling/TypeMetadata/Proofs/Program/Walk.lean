import TypeMetadata.Program.Nesting
import TypeMetadata.Proofs.Program.Query

/-!
The walk from a type out of its containers, as it is when nothing counts its steps. A program bounds
its walks so that each of them has an end, and the bound takes nothing away from the walks that end
by themselves within it.
-/

namespace TypeMetadata.Program

variable {program : Program} {ty container : TypeHandle} {decl : TypeDecl}
variable {around : List (TypeHandle × TypeDecl)}

/-- The walk goes on for as long as there is a container. It comes to these types, each with its
declaration, and ends at the last of them. -/
inductive Walks (program : Program) : TypeHandle → List (TypeHandle × TypeDecl) → Prop
  | outermost {ty : TypeHandle} {decl : TypeDecl} (hdecl : program.decl ty = .ok decl)
      (houtermost : decl.container = none) : Walks program ty [(ty, decl)]
  | nested {ty container : TypeHandle} {decl : TypeDecl} {outer : List (TypeHandle × TypeDecl)}
      (hdecl : program.decl ty = .ok decl) (hcontainer : decl.container = some container)
      (hrest : Walks program container outer) : Walks program ty ((ty, decl) :: outer)

theorem Walks.map_head?_eq (hwalk : program.Walks ty around) :
    (around.map Prod.fst).head? = some ty := by
  cases hwalk <;> rfl

theorem Walks.ne_nil (hwalk : program.Walks ty around) : around ≠ [] := by
  rintro rfl
  cases hwalk

theorem Walks.exists_outer (hwalk : program.Walks ty around) (hdecl : program.decl ty = .ok decl)
    (hcontainer : decl.container = some container) : ∃ outer, program.Walks container outer := by
  cases hwalk with
  | outermost hfound houtermost =>
      rw [hdecl, Except.ok.injEq] at hfound
      rw [← hfound, hcontainer] at houtermost
      cases houtermost
  | nested hfound hsome hrest =>
      rw [hdecl, Except.ok.injEq] at hfound
      rw [← hfound, hcontainer, Option.some_inj] at hsome
      subst hsome
      exact ⟨_, hrest⟩

/-- The walk never leaves a type that stands in itself. -/
theorem Walks.container_ne_self (hwalk : program.Walks ty around)
    (hdecl : program.decl ty = .ok decl) : decl.container ≠ some ty := by
  induction hwalk with
  | outermost hfound houtermost =>
      rw [hdecl, Except.ok.injEq] at hfound
      rw [hfound, houtermost]
      exact nofun
  | nested hfound hcontainer _ ih =>
      intro hself
      rw [hdecl, Except.ok.injEq] at hfound
      rw [← hfound, hself, Option.some_inj] at hcontainer
      subst hcontainer
      exact ih hdecl hself

/-! ### Bounds -/

theorem walks_of_enclosingWithin {steps : Nat}
    (haround : program.enclosingWithin steps ty = .ok around) :
    program.Walks ty around ∧ around.length ≤ steps := by
  induction steps generalizing ty around with
  | zero => cases haround
  | succ steps ih =>
      rw [enclosingWithin, bind_eq_ok] at haround
      obtain ⟨decl, hdecl, hwalk⟩ := haround
      cases hcontainer : decl.container with
      | none =>
          rw [hcontainer, pure_eq_ok] at hwalk
          subst hwalk
          exact ⟨.outermost hdecl hcontainer, Nat.succ_pos steps⟩
      | some container =>
          simp only [hcontainer, bind_eq_ok, pure_eq_ok] at hwalk
          obtain ⟨outer, houter, rfl⟩ := hwalk
          obtain ⟨hrest, hlength⟩ := ih houter
          exact ⟨.nested hdecl hcontainer hrest, Nat.succ_le_succ hlength⟩

theorem Walks.enclosingWithin_eq_ok (hwalk : program.Walks ty around) {steps : Nat}
    (hlength : around.length ≤ steps) : program.enclosingWithin steps ty = .ok around := by
  induction hwalk generalizing steps with
  | outermost hdecl houtermost =>
      cases steps with
      | zero => cases hlength
      | succ fewer =>
          rw [enclosingWithin, bind_eq_ok]
          refine ⟨_, hdecl, ?_⟩
          rw [houtermost]
          rfl
  | nested hdecl hcontainer _ ih =>
      cases steps with
      | zero => cases hlength
      | succ fewer =>
          rw [enclosingWithin, bind_eq_ok]
          refine ⟨_, hdecl, ?_⟩
          simp only [hcontainer, bind_eq_ok, pure_eq_ok]
          exact ⟨_, ih (Nat.le_of_succ_le_succ hlength), rfl⟩

theorem enclosing_eq_ok_iff :
    program.enclosing ty = .ok around ↔ program.Walks ty around ∧ around.length ≤ program.size := by
  constructor
  · exact walks_of_enclosingWithin
  · rintro ⟨hwalk, hlength⟩
    exact hwalk.enclosingWithin_eq_ok hlength

end TypeMetadata.Program
