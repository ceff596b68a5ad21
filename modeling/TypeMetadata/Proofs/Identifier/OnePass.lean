import TypeMetadata.Proofs.Identifier.ClosedForm

/-!
Names in the order of the list. Where no name looks like what another one may become, no name has to
make way for another, so it does not matter who takes an identifier first, and one pass over the
list gives the identifiers that the rounds give.
-/

namespace TypeMetadata.Identifier

open Allocator

variable {names : List String} {name : String} {slot : Slot}

/-- No name of the list is a name of the list with a number behind it, or the escaped form of a
reserved word of the list. -/
structure HasNoLookAlikes (names : List String) : Prop where
  numbered : ∀ name ∈ names, ∀ number, 0 < number → suffixed name number ∉ names
  escaped : ∀ name ∈ names, isReserved name = true → escape name ∉ names

namespace HasNoLookAlikes

theorem isOpen (hnames : HasNoLookAlikes names) (hname : name ∈ names) (position : Nat) :
    IsOpen names name position := by
  cases position with
  | zero =>
      rw [isOpen_zero_iff, or_iff_not_imp_left, Bool.not_eq_false]
      exact hnames.escaped name hname
  | succ number =>
      rw [isOpen_succ_iff]
      exact hnames.numbered name hname (number + 1) (Nat.succ_pos number)

theorem openPosition_eq (hnames : HasNoLookAlikes names) (hname : name ∈ names) (number : Nat) :
    openPosition names name number = number :=
  Nat.nth_of_forall fun position _ => hnames.isOpen hname position

theorem identFor_eq (hnames : HasNoLookAlikes names) (hslot : slot ∈ names.zipIdx) :
    identFor names slot = candidate slot.1 (occurrence names slot) := by
  rw [identFor, hnames.openPosition_eq (List.fst_mem_of_mem_zipIdx hslot)]

/-- The candidates before that of a slot went to the occurrences before it, which are further up the
list. -/
theorem exists_before (hnames : HasNoLookAlikes names) {before after : List Slot}
    (hsplit : names.zipIdx = before ++ slot :: after) {position : Nat}
    (hlt : position < occurrence names slot) :
    ∃ earlier ∈ before, identFor names earlier = candidate slot.1 position := by
  have hslot : slot ∈ names.zipIdx := hsplit ▸ List.mem_append_cons_self
  obtain ⟨earlier, hearlier, hname, rfl⟩ :=
    exists_slot (Nat.lt_trans hlt (occurrence_lt_count hslot))
  refine ⟨earlier, ?_, ?_⟩
  · have hpairwise := pairwise_zipIdx names
    rw [hsplit] at hearlier hpairwise
    exact mem_before_of_pairwise hpairwise (fun _ _ => Nat.lt_asymm) hearlier
      (place_lt_of_occurrence_lt hname hlt)
  · rw [hnames.identFor_eq hearlier, hname]

theorem isFirstFree (hnames : HasNoLookAlikes names) {before after : List Slot}
    (hsplit : names.zipIdx = before ++ slot :: after) :
    (Allocator.empty.claimAll (before.map (identFor names))).IsFirstFree slot.1
      (openPosition names slot.1 (occurrence names slot)) := by
  apply isFirstFree_of_order (List.Perm.refl _) hsplit
  intro position hlt
  have hslot : slot ∈ names.zipIdx := hsplit ▸ List.mem_append_cons_self
  rw [hnames.openPosition_eq (List.fst_mem_of_mem_zipIdx hslot)] at hlt
  exact hnames.exists_before hsplit hlt

theorem allocateAll_eq (hnames : HasNoLookAlikes names) :
    (Allocator.empty.allocateAll names).1 = names.zipIdx.map (identFor names) := by
  have hidents : (Allocator.empty.allocateAll (names.zipIdx.map Prod.fst)).1 =
      names.zipIdx.map (identFor names) := by
    apply allocateAll_eq_map
    intro before slot after hsplit
    exact ⟨_, rfl, hnames.isFirstFree hsplit⟩
  rwa [List.zipIdx_map_fst] at hidents

end HasNoLookAlikes

/-- Where no name looks like what another one may become, the names of a list have the identifiers
that a new allocator gives them one after another. -/
theorem allocateUnique_one_pass
    (hnumbered : ∀ name ∈ names, ∀ number, 0 < number → suffixed name number ∉ names)
    (hescaped : ∀ name ∈ names, isReserved name = true → escape name ∉ names) :
    allocateUnique names = (Allocator.empty.allocateAll names).1 := by
  have hnames : HasNoLookAlikes names := ⟨hnumbered, hescaped⟩
  rw [allocateUnique_eq_map_identFor, hnames.allocateAll_eq]

/-- Repeats of plain and of reserved names, and a name with the number that is never tried. -/
def plainNames : List String := ["T", "type", "T", "self", "T_0", "type", "T", "self"]

theorem underscore_mem_of_mem_plainNames {name : String} (hname : name ∈ plainNames)
    (hunderscore : '_' ∈ name.toList) : name = suffixed "T" 0 := by
  have hall : ∀ name ∈ plainNames, '_' ∈ name.toList → name = suffixed "T" 0 := by
    decide +kernel
  exact hall name hname hunderscore

theorem allocateUnique_plainNames :
    (∀ name ∈ plainNames, ∀ number, 0 < number → suffixed name number ∉ plainNames) ∧
      (∀ name ∈ plainNames, isReserved name = true → escape name ∉ plainNames) ∧
      allocateUnique plainNames = (Allocator.empty.allocateAll plainNames).1 ∧
      (Allocator.empty.allocateAll plainNames).1 =
        ["T", "r#type", "T_1", "self_", "T_0", "type_1", "T_2", "self_1"] := by
  have hnumbered : ∀ name ∈ plainNames, ∀ number, 0 < number →
      suffixed name number ∉ plainNames := by
    intro name _ number hpos hmem
    have hzero := underscore_mem_of_mem_plainNames hmem (underscore_mem_suffixed name number)
    exact Nat.ne_of_gt hpos (suffixed_inj hzero).2
  have hescaped : ∀ name ∈ plainNames, isReserved name = true → escape name ∉ plainNames := by
    decide +kernel
  refine ⟨hnumbered, hescaped, allocateUnique_one_pass hnumbered hescaped, ?_⟩
  have hnames : HasNoLookAlikes plainNames := ⟨hnumbered, hescaped⟩
  rw [hnames.allocateAll_eq, List.map_congr_left fun _ => hnames.identFor_eq]
  decide +kernel

end TypeMetadata.Identifier
