import Mathlib.Data.List.Nodup
import Mathlib.Data.Nat.Find
import TypeMetadata.Proofs.Identifier.Spelling

/-!
An allocator hands out the first free candidate of a name. One is always found among the tries,
since the candidates differ and there are more tries than taken identifiers.
-/

namespace TypeMetadata.Identifier.Allocator

variable {allocator : Allocator} {name : String} {position : Nat}

theorem isUsed_claim_eq_false {taken ident : String} :
    (allocator.claim taken).isUsed ident = false ↔
      taken ≠ ident ∧ allocator.isUsed ident = false := by
  rw [isUsed, claim, Std.ExtTreeSet.contains_insert, Bool.or_eq_false_iff, beq_eq_false_iff_ne,
    ne_eq, Std.LawfulEqCmp.compare_eq_iff_eq]
  rfl

theorem size_ofList_of_nodup {idents : List String} (hnodup : idents.Nodup) :
    (Std.ExtTreeSet.ofList idents).size = idents.length := by
  apply Std.ExtTreeSet.size_ofList
  apply hnodup.imp
  intro first second hne
  rwa [Std.LawfulEqCmp.compare_eq_iff_eq]

theorem length_le_size {used : Std.ExtTreeSet String} {idents : List String}
    (hnodup : idents.Nodup) (hused : ∀ ident ∈ idents, ident ∈ used) :
    idents.length ≤ used.size := by
  have hsubset : ∀ ident, ident ∈ Std.ExtTreeSet.ofList idents → ident ∈ used := by
    intro ident hident
    rw [Std.ExtTreeSet.mem_ofList, List.contains_iff_mem] at hident
    exact hused ident hident
  rw [← size_ofList_of_nodup hnodup, ← Std.ExtTreeSet.size_inter_eq_size_left hsubset]
  exact Std.ExtTreeSet.size_inter_le_size_right

/-! ### The first free candidate -/

structure IsFirstFree (allocator : Allocator) (name : String) (position : Nat) : Prop where
  free : allocator.isUsed (candidate name position) = false
  earlier : ∀ number < position, allocator.isUsed (candidate name number) = true

theorem le_size_of_earlier
    (hearlier : ∀ number < position, allocator.isUsed (candidate name number) = true) :
    position ≤ allocator.used.size := by
  have hnodup : ((List.range position).map (candidate name)).Nodup :=
    List.Nodup.map (fun _ _ heq => candidate_inj heq) List.nodup_range
  have hused : ∀ ident ∈ (List.range position).map (candidate name), ident ∈ allocator.used := by
    intro ident hident
    obtain ⟨number, hnumber, rfl⟩ := List.mem_map.mp hident
    exact Std.ExtTreeSet.contains_iff_mem.mp (hearlier number (List.mem_range.mp hnumber))
  have hlength := length_le_size hnodup hused
  rwa [List.length_map, List.length_range] at hlength

theorem exists_isFirstFree (allocator : Allocator) (name : String) :
    ∃ position, allocator.IsFirstFree name position := by
  have hfree : ∃ position, allocator.isUsed (candidate name position) = false := by
    by_contra hnone
    have hused : ∀ number < allocator.used.size + 1,
        allocator.isUsed (candidate name number) = true := by
      intro number _
      rw [← Bool.not_eq_false]
      intro hunused
      exact hnone ⟨number, hunused⟩
    exact Nat.not_succ_le_self _ (le_size_of_earlier hused)
  refine ⟨Nat.find hfree, Nat.find_spec hfree, ?_⟩
  intro number hnumber
  rw [← Bool.not_eq_false]
  exact Nat.find_min hfree hnumber

theorem firstFree_of_isFirstFree (hfirst : allocator.IsFirstFree name position) (start tries : Nat)
    (hstart : start ≤ position) (htries : position ≤ start + tries) :
    allocator.firstFree name tries start = candidate name position := by
  induction tries generalizing start with
  | zero =>
      have heq : start = position := by omega
      rw [heq]
      rfl
  | succ tries ih =>
      rw [firstFree]
      by_cases heq : start = position
      · rw [heq, hfirst.free]
        rfl
      · have hused := hfirst.earlier start (by omega)
        rw [if_pos hused]
        apply ih
        · omega
        · omega

theorem allocate_of_isFirstFree (hfirst : allocator.IsFirstFree name position) :
    allocator.allocate name =
      (candidate name position, allocator.claim (candidate name position)) := by
  have hsize := le_size_of_earlier hfirst.earlier
  rw [allocate, firstFree_of_isFirstFree hfirst 0 _ (Nat.zero_le _) (by omega)]

theorem allocate_cases (allocator : Allocator) (name : String) :
    ∃ position, allocator.IsFirstFree name position ∧ allocator.allocate name =
      (candidate name position, allocator.claim (candidate name position)) := by
  obtain ⟨position, hfirst⟩ := exists_isFirstFree allocator name
  exact ⟨position, hfirst, allocate_of_isFirstFree hfirst⟩

/-! ### Many names -/

theorem allocateAll_cons (allocator : Allocator) (name : String) (names : List String) :
    (allocator.allocateAll (name :: names)).1 =
      (allocator.allocate name).1 :: ((allocator.allocate name).2.allocateAll names).1 :=
  rfl

theorem isUsed_eq_false_of_mem_allocateAll {names : List String} {ident : String}
    (hident : ident ∈ (allocator.allocateAll names).1) : allocator.isUsed ident = false := by
  induction names generalizing allocator with
  | nil => cases hident
  | cons name names ih =>
      obtain ⟨position, hfirst, hallocate⟩ := allocate_cases allocator name
      rw [allocateAll_cons, hallocate] at hident
      rcases List.mem_cons.mp hident with rfl | hident
      · exact hfirst.free
      · exact (isUsed_claim_eq_false.mp (ih hident)).2

theorem nodup_allocateAll (names : List String) (allocator : Allocator) :
    (allocator.allocateAll names).1.Nodup := by
  induction names generalizing allocator with
  | nil => exact List.nodup_nil
  | cons name names ih =>
      obtain ⟨position, -, hallocate⟩ := allocate_cases allocator name
      rw [allocateAll_cons, hallocate, List.nodup_cons]
      refine ⟨?_, ih _⟩
      intro hagain
      have hunused := isUsed_eq_false_of_mem_allocateAll hagain
      exact (isUsed_claim_eq_false.mp hunused).1 rfl

theorem allocateAll_candidates (names : List String) (allocator : Allocator) :
    List.Forall₂ (fun name ident => ∃ position, ident = candidate name position) names
      (allocator.allocateAll names).1 := by
  induction names generalizing allocator with
  | nil => exact .nil
  | cons name names ih =>
      obtain ⟨position, -, hallocate⟩ := allocate_cases allocator name
      rw [allocateAll_cons, hallocate]
      exact .cons ⟨position, rfl⟩ (ih _)

def claimAll (allocator : Allocator) (idents : List String) : Allocator :=
  idents.foldl claim allocator

theorem isUsed_claimAll {idents : List String} {ident : String} :
    (allocator.claimAll idents).isUsed ident = true ↔
      allocator.isUsed ident = true ∨ ident ∈ idents := by
  induction idents generalizing allocator with
  | nil => simp [claimAll]
  | cons taken idents ih =>
      change ((allocator.claim taken).claimAll idents).isUsed ident = true ↔ _
      have hclaim : (allocator.claim taken).isUsed ident = true ↔
          allocator.isUsed ident = true ∨ ident = taken := by
        rw [← not_iff_not, Bool.not_eq_true, isUsed_claim_eq_false, not_or, Bool.not_eq_true,
          and_comm, ne_comm]
      rw [ih, hclaim, List.mem_cons, or_assoc]

/-- The identifiers of some slots are known in advance if each is the first candidate of its name
that the slots before it leave free. -/
theorem allocateAll_eq_map {α : Type} {nameOf identOf : α → String} {slots : List α}
    (hfree : ∀ before slot after, slots = before ++ slot :: after → ∃ position,
      identOf slot = candidate (nameOf slot) position ∧
        (allocator.claimAll (before.map identOf)).IsFirstFree (nameOf slot) position) :
    (allocator.allocateAll (slots.map nameOf)).1 = slots.map identOf := by
  induction slots generalizing allocator with
  | nil => rfl
  | cons slot slots ih =>
      obtain ⟨position, hident, hfirst⟩ := hfree [] slot slots rfl
      have hallocate : allocator.allocate (nameOf slot) = _ := allocate_of_isFirstFree hfirst
      rw [List.map_cons, List.map_cons, allocateAll_cons, hallocate, ← hident]
      congr 1
      apply ih
      intro before other after hsplit
      exact hfree (slot :: before) other after (congrArg (slot :: ·) hsplit)

theorem length_allocateAll (names : List String) (allocator : Allocator) :
    (allocator.allocateAll names).1.length = names.length :=
  (allocateAll_candidates names allocator).length_eq.symm

end TypeMetadata.Identifier.Allocator
