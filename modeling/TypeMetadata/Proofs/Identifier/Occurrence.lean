import TypeMetadata.Proofs.Identifier.Unique

/-!
The slots of a list told apart by name and occurrence instead of by place, and the order in which
they take their identifiers. A slot waits for all first occurrences of plain names and for the
earlier occurrences of its own name.
-/

namespace TypeMetadata.Identifier

variable {names others : List String} {slot other : Slot}

/-! ### Occurrences -/

/-- How many slots of the same name stand before a slot. -/
def occurrence (names : List String) (slot : Slot) : Nat :=
  names.countBefore slot.1 slot.2

theorem isFirstOccurrence_iff :
    isFirstOccurrence names slot = true ↔ occurrence names slot = 0 := by
  rw [isFirstOccurrence, occurrence, List.countBefore_eq_count_take, List.count_eq_zero,
    Bool.not_eq_true', ← Bool.not_eq_true, List.contains_iff_mem]

theorem idxOfNth_occurrence (hslot : slot ∈ names.zipIdx) :
    names.idxOfNth slot.1 (occurrence names slot) = slot.2 := by
  obtain ⟨name, place⟩ := slot
  rw [List.mk_mem_zipIdx_iff_getElem?, List.getElem?_eq_some_iff] at hslot
  obtain ⟨hplace, rfl⟩ := hslot
  exact List.idxOfNth_countBefore_getElem

theorem occurrence_lt_count (hslot : slot ∈ names.zipIdx) :
    occurrence names slot < names.count slot.1 := by
  obtain ⟨name, place⟩ := slot
  rw [List.mk_mem_zipIdx_iff_getElem?, List.getElem?_eq_some_iff] at hslot
  obtain ⟨hplace, rfl⟩ := hslot
  exact List.countBefore_lt_count_getElem

theorem exists_slot {name : String} {number : Nat} (hnumber : number < names.count name) :
    ∃ slot ∈ names.zipIdx, slot.1 = name ∧ occurrence names slot = number := by
  have hplace := List.idxOfNth_lt_length_of_lt_count hnumber
  refine ⟨(name, names.idxOfNth name number), ?_, rfl, ?_⟩
  · rw [List.mk_mem_zipIdx_iff_getElem?, List.getElem?_eq_getElem hplace,
      List.getElem_idxOfNth_eq]
  · exact List.countBefore_idxOfNth_of_lt_count hnumber

theorem slot_eq_of_occurrence_eq (hslot : slot ∈ names.zipIdx) (hother : other ∈ names.zipIdx)
    (hname : slot.1 = other.1) (hoccurrence : occurrence names slot = occurrence names other) :
    slot = other := by
  apply Prod.ext hname
  rw [← idxOfNth_occurrence hslot, ← idxOfNth_occurrence hother, hname, hoccurrence]

theorem place_lt_of_occurrence_lt (hname : other.1 = slot.1)
    (hlt : occurrence names other < occurrence names slot) : other.2 < slot.2 := by
  apply Nat.lt_of_not_le
  intro hle
  have hmono : names.countBefore slot.1 slot.2 ≤ names.countBefore slot.1 other.2 :=
    List.countPBefore_mono hle
  rw [occurrence, hname] at hlt
  exact Nat.not_lt_of_le hmono hlt

/-- The names of a list, each with the number of its occurrence. -/
def occurrences (names : List String) : List (String × Nat) :=
  names.zipIdx.map fun slot => (slot.1, occurrence names slot)

theorem mem_occurrences {name : String} {number : Nat} :
    (name, number) ∈ occurrences names ↔ number < names.count name := by
  rw [occurrences, List.mem_map]
  constructor
  · rintro ⟨slot, hslot, heq⟩
    obtain ⟨rfl, rfl⟩ := Prod.mk.inj heq
    exact occurrence_lt_count hslot
  · intro hnumber
    obtain ⟨slot, hslot, rfl, rfl⟩ := exists_slot hnumber
    exact ⟨slot, hslot, rfl⟩

theorem nodup_occurrences (names : List String) : (occurrences names).Nodup := by
  apply List.Nodup.map_on _ (nodup_zipIdx names)
  intro slot hslot other hother heq
  obtain ⟨hname, hoccurrence⟩ := Prod.mk.inj heq
  exact slot_eq_of_occurrence_eq hslot hother hname hoccurrence

theorem occurrences_perm (hperm : names.Perm others) :
    (occurrences names).Perm (occurrences others) := by
  rw [List.perm_ext_iff_of_nodup (nodup_occurrences names) (nodup_occurrences others)]
  rintro ⟨name, number⟩
  rw [mem_occurrences, mem_occurrences, hperm.count_eq]

theorem mem_before_of_pairwise {before after : List Slot} {rel : Slot → Slot → Prop}
    (hpairwise : (before ++ slot :: after).Pairwise rel)
    (hasymm : ∀ first second, rel first second → ¬rel second first)
    (hother : other ∈ before ++ slot :: after) (hrel : rel other slot) : other ∈ before := by
  rw [List.mem_append, List.mem_cons] at hother
  rcases hother with hbefore | rfl | hafter
  · exact hbefore
  · exact absurd hrel (hasymm _ _ hrel)
  · rw [List.pairwise_append, List.pairwise_cons] at hpairwise
    exact absurd (hpairwise.2.1.1 other hafter) (hasymm _ _ hrel)

/-! ### Rounds -/

/-- The round in which a slot takes its identifier: first occurrences of plain names, first
occurrences of reserved names, repeats. -/
def round (names : List String) (slot : Slot) : Nat :=
  if isFirstOccurrence names slot then if isReserved slot.1 then 1 else 0 else 2

/-- A slot comes before another when the slots take their identifiers. -/
def TakesBefore (names : List String) (first second : Slot) : Prop :=
  round names first < round names second ∨
    (round names first = round names second ∧ first.2 < second.2)

theorem TakesBefore.asymm (htakes : TakesBefore names slot other) :
    ¬TakesBefore names other slot := by
  rw [TakesBefore] at htakes ⊢
  omega

theorem pairwise_takesBefore_of_round {slots : List Slot} {number : Nat}
    (hsublist : slots.Sublist names.zipIdx) (hround : ∀ slot ∈ slots, round names slot = number) :
    slots.Pairwise (TakesBefore names) := by
  have hplaces := (pairwise_zipIdx names).sublist hsublist
  apply hplaces.imp_of_mem
  intro first second hfirst hsecond hlt
  exact .inr ⟨(hround first hfirst).trans (hround second hsecond).symm, hlt⟩

theorem pairwise_allocationOrder (names : List String) :
    (allocationOrder names).Pairwise (TakesBefore names) := by
  have hplain : ∀ slot ∈ (names.zipIdx.filter (isFirstOccurrence names)).filter
      (fun slot => !isReserved slot.1), round names slot = 0 := by
    intro slot hslot
    simp only [List.mem_filter, Bool.not_eq_true'] at hslot
    simp [round, hslot.1.2, hslot.2]
  have hreserved : ∀ slot ∈ (names.zipIdx.filter (isFirstOccurrence names)).filter
      (fun slot => isReserved slot.1), round names slot = 1 := by
    intro slot hslot
    simp only [List.mem_filter] at hslot
    simp [round, hslot.1.2, hslot.2]
  have hrepeat : ∀ slot ∈ names.zipIdx.filter (fun slot => !isFirstOccurrence names slot),
      round names slot = 2 := by
    intro slot hslot
    simp only [List.mem_filter, Bool.not_eq_true'] at hslot
    simp [round, hslot.2]
  rw [allocationOrder, List.pairwise_append, List.pairwise_append]
  refine ⟨⟨?_, ?_, ?_⟩, ?_, ?_⟩
  · exact pairwise_takesBefore_of_round
      (List.filter_sublist.trans List.filter_sublist) hplain
  · exact pairwise_takesBefore_of_round
      (List.filter_sublist.trans List.filter_sublist) hreserved
  · intro first hfirst second hsecond
    left
    rw [hplain first hfirst, hreserved second hsecond]
    decide
  · exact pairwise_takesBefore_of_round List.filter_sublist hrepeat
  · intro first hfirst second hsecond
    left
    rw [hrepeat second hsecond]
    rcases List.mem_append.mp hfirst with hfirst | hfirst
    · rw [hplain first hfirst]
      decide
    · rw [hreserved first hfirst]
      decide

theorem mem_before_of_takesBefore {before after : List Slot}
    (hsplit : allocationOrder names = before ++ slot :: after) (hother : other ∈ names.zipIdx)
    (htakes : TakesBefore names other slot) : other ∈ before := by
  have hpairwise := pairwise_allocationOrder names
  rw [hsplit] at hpairwise
  rw [← mem_allocationOrder, hsplit] at hother
  exact mem_before_of_pairwise hpairwise (fun _ _ => TakesBefore.asymm) hother htakes

/-! ### What a slot waits for -/

theorem takesBefore_of_occurrence_lt (hname : other.1 = slot.1)
    (hlt : occurrence names other < occurrence names slot) : TakesBefore names other slot := by
  have hrepeat : round names slot = 2 := by
    rw [round, if_neg]
    rw [isFirstOccurrence_iff]
    omega
  have hplace := place_lt_of_occurrence_lt hname hlt
  rw [TakesBefore, hrepeat, round]
  split
  · split <;> simp
  · exact .inr ⟨rfl, hplace⟩

theorem takesBefore_of_plain (hplain : isReserved other.1 = false)
    (hother : occurrence names other = 0)
    (hslot : occurrence names slot ≠ 0 ∨ isReserved slot.1 = true) :
    TakesBefore names other slot := by
  have hfirst : round names other = 0 := by
    rw [round, isFirstOccurrence_iff.mpr hother, hplain]
    rfl
  left
  rw [hfirst, round]
  split
  · rename_i hoccurrence
    rw [isFirstOccurrence_iff] at hoccurrence
    rw [hslot.resolve_left (fun hne => hne hoccurrence)]
    decide
  · decide

end TypeMetadata.Identifier
