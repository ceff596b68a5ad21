import Mathlib.Data.List.Forall2
import TypeMetadata.Identifier.Unique
import TypeMetadata.Proofs.Identifier.Allocator

/-!
The identifiers of a list of names differ from each other, and they are legal if the names can be
spelled at all. The order in which the slots take them matters for neither.
-/

namespace TypeMetadata.Identifier

/-! ### Slots -/

theorem pairwise_zipIdx (names : List String) :
    names.zipIdx.Pairwise fun first second => first.2 < second.2 := by
  simp [List.pairwise_iff_getElem]

theorem nodup_zipIdx (names : List String) : names.zipIdx.Nodup := by
  apply (pairwise_zipIdx names).imp
  rintro slot _ hlt rfl
  exact Nat.lt_irrefl _ hlt

theorem allocationOrder_perm (names : List String) :
    (allocationOrder names).Perm names.zipIdx := by
  have hplain := List.filter_append_perm (fun slot => !isReserved slot.1)
    (names.zipIdx.filter (isFirstOccurrence names))
  simp only [Bool.not_not] at hplain
  rw [allocationOrder]
  apply (hplain.append_right _).trans
  exact List.filter_append_perm (isFirstOccurrence names) names.zipIdx

theorem mem_allocationOrder {names : List String} {slot : Slot} :
    slot ∈ allocationOrder names ↔ slot ∈ names.zipIdx :=
  (allocationOrder_perm names).mem_iff

/-! ### The identifiers of the slots -/

theorem length_idents (order : List Slot) (allocator : Allocator) :
    (allocator.allocateAll (order.map Prod.fst)).1.length = order.length := by
  rw [Allocator.length_allocateAll, List.length_map]

theorem assignments_map_fst (names : List String) :
    (assignments names).map Prod.fst = allocationOrder names := by
  rw [assignments]
  exact List.map_fst_zip (Nat.le_of_eq (length_idents _ _).symm)

theorem assignments_map_snd (names : List String) :
    (assignments names).map Prod.snd =
      (Allocator.empty.allocateAll ((allocationOrder names).map Prod.fst)).1 := by
  rw [assignments]
  exact List.map_snd_zip (Nat.le_of_eq (length_idents _ _))

theorem candidate_of_mem_assignments {names : List String} {slot : Slot} {ident : String}
    (hassigned : (slot, ident) ∈ assignments names) :
    ∃ position, ident = Allocator.candidate slot.1 position := by
  have hcandidates := Allocator.allocateAll_candidates
    ((allocationOrder names).map Prod.fst) Allocator.empty
  rw [List.forall₂_map_left_iff] at hcandidates
  exact List.forall₂_zip hcandidates hassigned

theorem slot_eq_of_ident_eq {names : List String} {first second : Slot} {ident : String}
    (hfirst : (first, ident) ∈ assignments names)
    (hsecond : (second, ident) ∈ assignments names) : first = second := by
  have hnodup : ((assignments names).map Prod.snd).Nodup := by
    rw [assignments_map_snd]
    exact Allocator.nodup_allocateAll _ _
  have heq := List.inj_on_of_nodup_map hnodup hfirst hsecond rfl
  exact congrArg Prod.fst heq

def identOf (names : List String) (slot : Slot) : String :=
  ((assignments names).lookup slot).getD slot.1

theorem allocateUnique_eq_map (names : List String) :
    allocateUnique names = names.zipIdx.map (identOf names) :=
  rfl

theorem identOf_mem_assignments {names : List String} {slot : Slot}
    (hslot : slot ∈ names.zipIdx) : (slot, identOf names slot) ∈ assignments names := by
  rw [← mem_allocationOrder, ← assignments_map_fst] at hslot
  obtain ⟨⟨slot, ident⟩, hassigned, rfl⟩ := List.mem_map.mp hslot
  cases hlookup : (assignments names).lookup slot with
  | none =>
      rw [List.lookup_eq_none_iff] at hlookup
      have hne := hlookup _ hassigned
      simp at hne
  | some found =>
      obtain ⟨before, after, hsplit, -⟩ := List.lookup_eq_some_iff.mp hlookup
      rw [identOf, hlookup, hsplit]
      exact List.mem_append_right _ List.mem_cons_self

/-! ### The whole list -/

theorem length_allocateUnique (names : List String) :
    (allocateUnique names).length = names.length := by
  rw [allocateUnique_eq_map, List.length_map, List.length_zipIdx]

theorem nodup_allocateUnique (names : List String) : (allocateUnique names).Nodup := by
  rw [allocateUnique_eq_map]
  apply List.Nodup.map_on _ (nodup_zipIdx names)
  intro first hfirst second hsecond heq
  have hassigned := identOf_mem_assignments hsecond
  rw [← heq] at hassigned
  exact slot_eq_of_ident_eq (identOf_mem_assignments hfirst) hassigned

theorem isLegal_of_mem_allocateUnique {names : List String}
    (hnames : ∀ name ∈ names, isReserved name = true ∨ isLegal name = true) :
    ∀ ident ∈ allocateUnique names, isLegal ident = true := by
  intro ident hident
  rw [allocateUnique_eq_map] at hident
  obtain ⟨slot, hslot, rfl⟩ := List.mem_map.mp hident
  obtain ⟨position, hposition⟩ := candidate_of_mem_assignments (identOf_mem_assignments hslot)
  rw [hposition]
  exact isLegal_candidate (hnames slot.1 (List.fst_mem_of_mem_zipIdx hslot)) position

/-- Every name gets an identifier of its own, and all of them can stand in generated code if each
name is reserved or could stand there itself. -/
theorem allocateUnique_distinct_and_legal (names : List String) :
    (allocateUnique names).length = names.length ∧
      (allocateUnique names).Nodup ∧
      ((∀ name ∈ names, isReserved name = true ∨ isLegal name = true) →
        ∀ ident ∈ allocateUnique names, isLegal ident = true) :=
  ⟨length_allocateUnique names, nodup_allocateUnique names, isLegal_of_mem_allocateUnique⟩

/-- Repeats, both kinds of keywords, and names that look like what others become. -/
def lookAlikes : List String :=
  ["T", "T", "T_1", "self", "self_", "self", "type", "r#type", "type", "Ünïcode", "Ünïcode_1"]

theorem allocateUnique_lookAlikes :
    (allocateUnique lookAlikes).length = 11 ∧
      (allocateUnique lookAlikes).Nodup ∧
      ∀ ident ∈ allocateUnique lookAlikes, isLegal ident = true := by
  obtain ⟨hlength, hnodup, hlegal⟩ := allocateUnique_distinct_and_legal lookAlikes
  refine ⟨hlength, hnodup, hlegal ?_⟩
  decide +kernel

end TypeMetadata.Identifier
