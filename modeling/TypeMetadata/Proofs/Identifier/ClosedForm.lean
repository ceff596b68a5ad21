import Mathlib.Data.Nat.Nth
import TypeMetadata.Proofs.Identifier.Occurrence

/-!
The identifiers of a list of names in closed form. A candidate is open to a name unless it is the
spelling of another name of the list, and the occurrences of a name take its open candidates in
order, whatever stands between them. So an identifier does not depend on the order of the list.
-/

namespace TypeMetadata.Identifier

open Allocator

variable {names others : List String} {name other : String} {slot : Slot} {number : Nat}

/-! ### Open positions -/

/-- No other name of the list is spelled like the candidate of a name at a position. -/
def IsOpen (names : List String) (name : String) (position : Nat) : Prop :=
  ∀ other ∈ names, candidate name position = other → other = name

instance (names : List String) (name : String) : DecidablePred (IsOpen names name) :=
  fun position => inferInstanceAs
    (Decidable (∀ other ∈ names, candidate name position = other → other = name))

theorem isOpen_of_not_mem {position : Nat} (hnew : candidate name position ∉ names) :
    IsOpen names name position := by
  intro other hother heq
  rw [heq] at hnew
  exact absurd hother hnew

theorem isOpen_zero_iff :
    IsOpen names name 0 ↔ isReserved name = false ∨ escape name ∉ names := by
  constructor
  · intro hopen
    rw [or_iff_not_imp_right, not_not]
    intro htaken
    rw [← hopen _ htaken rfl]
    exact isReserved_escape name
  · rintro (hplain | hnew)
    · intro other _ heq
      rw [← heq, candidate_zero, escape_of_not_isReserved hplain]
    · exact isOpen_of_not_mem hnew

theorem isOpen_succ_iff :
    IsOpen names name (number + 1) ↔ suffixed name (number + 1) ∉ names := by
  constructor
  · intro hopen htaken
    exact suffixed_ne_self name (number + 1) (hopen _ htaken (candidate_succ name number))
  · intro hnew
    rw [← candidate_succ] at hnew
    exact isOpen_of_not_mem hnew

/-- A list has names enough for finitely many candidates only. -/
theorem infinite_isOpen (names : List String) (name : String) :
    (Set.ofPred (IsOpen names name)).Infinite := by
  have hfinite : (Set.preimage (candidate name) {ident | ident ∈ names}).Finite := by
    apply Set.Finite.preimage
    · intro first _ second _ heq
      exact candidate_inj heq
    · exact names.finite_toSet
  apply hfinite.infinite_compl.mono
  intro position hposition
  exact isOpen_of_not_mem hposition

noncomputable def openPosition (names : List String) (name : String) (number : Nat) : Nat :=
  Nat.nth (IsOpen names name) number

theorem isOpen_openPosition (names : List String) (name : String) (number : Nat) :
    IsOpen names name (openPosition names name number) :=
  Nat.nth_mem_of_infinite (infinite_isOpen names name) number

theorem openPosition_lt_iff {earlier : Nat} :
    openPosition names name earlier < openPosition names name number ↔ earlier < number :=
  Nat.nth_lt_nth (infinite_isOpen names name)

theorem openPosition_inj {earlier : Nat}
    (heq : openPosition names name earlier = openPosition names name number) : earlier = number :=
  Nat.nth_injective (infinite_isOpen names name) heq

theorem exists_openPosition_eq {position : Nat} (hopen : IsOpen names name position) :
    ∃ number, openPosition names name number = position :=
  ⟨Nat.count (IsOpen names name) position, Nat.nth_count hopen⟩

theorem openPosition_zero_of_plain (hplain : isReserved name = false) :
    openPosition names name 0 = 0 :=
  Nat.nth_zero_of_zero (isOpen_zero_iff.mpr (.inl hplain))

/-- Different names of a list never compete for a candidate that is open to both. -/
theorem candidate_inj_of_isOpen {first second : Nat} (hname : name ∈ names)
    (hother : other ∈ names) (hfirst : IsOpen names name first)
    (hsecond : IsOpen names other second) (heq : candidate name first = candidate other second) :
    name = other ∧ first = second := by
  have hsame : name = other := by
    rcases candidate_eq_candidate heq with hsame | hspelled | hspelled
    · exact hsame
    · exact (hfirst other hother hspelled).symm
    · exact hsecond name hname hspelled
  subst hsame
  exact ⟨rfl, candidate_inj heq⟩

/-! ### The slots take their open candidates -/

noncomputable def identFor (names : List String) (slot : Slot) : String :=
  candidate slot.1 (openPosition names slot.1 (occurrence names slot))

theorem identFor_inj {other : Slot} (hslot : slot ∈ names.zipIdx) (hother : other ∈ names.zipIdx)
    (heq : identFor names slot = identFor names other) : slot = other := by
  obtain ⟨hname, hposition⟩ := candidate_inj_of_isOpen (List.fst_mem_of_mem_zipIdx hslot)
    (List.fst_mem_of_mem_zipIdx hother) (isOpen_openPosition _ _ _) (isOpen_openPosition _ _ _) heq
  rw [hname] at hposition
  exact slot_eq_of_occurrence_eq hslot hother hname (openPosition_inj hposition)

/-- Whatever stops a slot short of its open candidate was taken before: an open candidate by an
earlier occurrence of the name, any other by the name that is spelled like it. -/
theorem exists_takesBefore_of_lt {position : Nat} (hslot : slot ∈ names.zipIdx)
    (hlt : position < openPosition names slot.1 (occurrence names slot)) :
    ∃ earlier ∈ names.zipIdx, TakesBefore names earlier slot ∧
      identFor names earlier = candidate slot.1 position := by
  by_cases hopen : IsOpen names slot.1 position
  · obtain ⟨number, rfl⟩ := exists_openPosition_eq hopen
    rw [openPosition_lt_iff] at hlt
    obtain ⟨earlier, hearlier, hname, rfl⟩ :=
      exists_slot (Nat.lt_trans hlt (occurrence_lt_count hslot))
    refine ⟨earlier, hearlier, takesBefore_of_occurrence_lt hname hlt, ?_⟩
    rw [identFor, hname]
  · rw [IsOpen] at hopen
    push Not at hopen
    obtain ⟨name, hname, hspelled, -⟩ := hopen
    have hplain : isReserved name = false := by
      rw [← hspelled]
      exact isReserved_candidate slot.1 position
    obtain ⟨earlier, hearlier, rfl, hfirst⟩ := exists_slot (List.count_pos_iff.mpr hname)
    refine ⟨earlier, hearlier, takesBefore_of_plain hplain hfirst ?_, ?_⟩
    · -- A first occurrence of a plain name has nothing before its candidate.
      by_contra hneither
      rw [not_or, not_not, Bool.not_eq_true] at hneither
      rw [hneither.1, openPosition_zero_of_plain hneither.2] at hlt
      exact Nat.not_lt_zero position hlt
    · rw [identFor, hfirst, openPosition_zero_of_plain hplain, candidate_zero,
        escape_of_not_isReserved hplain, hspelled]

/-- In whatever order the slots take their identifiers, a slot finds its open candidate free and the
candidates before it taken, provided that their takers came before. -/
theorem isFirstFree_of_order {order before after : List Slot} (hperm : order.Perm names.zipIdx)
    (hsplit : order = before ++ slot :: after)
    (htaken : ∀ position < openPosition names slot.1 (occurrence names slot),
      ∃ earlier ∈ before, identFor names earlier = candidate slot.1 position) :
    (Allocator.empty.claimAll (before.map (identFor names))).IsFirstFree slot.1
      (openPosition names slot.1 (occurrence names slot)) := by
  have hmem : ∀ taken ∈ before ++ slot :: after, taken ∈ names.zipIdx := by
    intro taken htaken
    rwa [← hsplit, hperm.mem_iff] at htaken
  have hslot : slot ∈ names.zipIdx := hmem slot List.mem_append_cons_self
  have hnodup : (before ++ slot :: after).Nodup := by
    rw [← hsplit]
    exact hperm.nodup_iff.mpr (nodup_zipIdx names)
  have hempty : ∀ ident, Allocator.empty.isUsed ident = false :=
    fun _ => Std.ExtTreeSet.contains_empty
  constructor
  · rw [← Bool.not_eq_true, isUsed_claimAll, hempty, not_or]
    refine ⟨Bool.false_ne_true, ?_⟩
    intro htaken
    obtain ⟨other, hother, hident⟩ := List.mem_map.mp htaken
    have hsame := identFor_inj (hmem other (List.mem_append_left _ hother)) hslot hident
    rw [hsame] at hother
    exact (List.nodup_append.mp hnodup).2.2 slot hother slot List.mem_cons_self rfl
  · intro position hlt
    obtain ⟨earlier, hearlier, hident⟩ := htaken position hlt
    rw [isUsed_claimAll, ← hident]
    exact .inr (List.mem_map_of_mem hearlier)

theorem isFirstFree_openPosition {before after : List Slot}
    (hsplit : allocationOrder names = before ++ slot :: after) :
    (Allocator.empty.claimAll (before.map (identFor names))).IsFirstFree slot.1
      (openPosition names slot.1 (occurrence names slot)) := by
  have hslot : slot ∈ names.zipIdx :=
    mem_allocationOrder.mp (hsplit ▸ List.mem_append_cons_self)
  apply isFirstFree_of_order (allocationOrder_perm names) hsplit
  intro position hlt
  obtain ⟨earlier, hearlier, htakes, hident⟩ := exists_takesBefore_of_lt hslot hlt
  exact ⟨earlier, mem_before_of_takesBefore hsplit hearlier htakes, hident⟩

theorem allocateUnique_eq_map_identFor (names : List String) :
    allocateUnique names = names.zipIdx.map (identFor names) := by
  have hidents : (Allocator.empty.allocateAll ((allocationOrder names).map Prod.fst)).1 =
      (allocationOrder names).map (identFor names) := by
    apply allocateAll_eq_map
    intro before slot after hsplit
    exact ⟨_, rfl, isFirstFree_openPosition hsplit⟩
  rw [allocateUnique_eq_map]
  apply List.map_congr_left
  intro slot hslot
  have hassigned := identOf_mem_assignments hslot
  rw [assignments, hidents, ← List.map_prod_left_eq_zip] at hassigned
  obtain ⟨taken, -, heq⟩ := List.mem_map.mp hassigned
  obtain ⟨rfl, hident⟩ := Prod.mk.inj heq
  exact hident.symm

/-! ### Spare numbers -/

/-- A number can stand behind a name without spelling a name of the list. -/
def IsSpare (names : List String) (name : String) (number : Nat) : Prop :=
  0 < number ∧ suffixed name number ∉ names

instance (names : List String) (name : String) : DecidablePred (IsSpare names name) :=
  fun number => inferInstanceAs (Decidable (0 < number ∧ suffixed name number ∉ names))

/-- The spare numbers of a name in increasing order. -/
noncomputable def spareNumber (names : List String) (name : String) (place : Nat) : Nat :=
  Nat.nth (IsSpare names name) place

theorem isSpare_iff : IsSpare names name number ↔ 0 < number ∧ IsOpen names name number := by
  cases number with
  | zero => simp [IsSpare]
  | succ number => rw [IsSpare, isOpen_succ_iff]

theorem infinite_isSpare (names : List String) (name : String) :
    (Set.ofPred (IsSpare names name)).Infinite := by
  apply ((infinite_isOpen names name).sdiff (Set.finite_singleton 0)).mono
  rintro number ⟨hopen, hne⟩
  exact isSpare_iff.mpr ⟨Nat.pos_of_ne_zero hne, hopen⟩

theorem strictMono_spareNumber (names : List String) (name : String) :
    StrictMono (spareNumber names name) :=
  Nat.nth_strictMono (infinite_isSpare names name)

theorem isSpare_spareNumber (names : List String) (name : String) (place : Nat) :
    IsSpare names name (spareNumber names name place) :=
  Nat.nth_mem_of_infinite (infinite_isSpare names name) place

theorem exists_spareNumber_eq_iff :
    (∃ place, spareNumber names name place = number) ↔ IsSpare names name number := by
  constructor
  · rintro ⟨place, rfl⟩
    exact isSpare_spareNumber names name place
  · intro hspare
    exact ⟨Nat.count (IsSpare names name) number, Nat.nth_count hspare⟩

theorem count_isOpen_succ (names : List String) (name : String) (number : Nat) :
    Nat.count (IsOpen names name) (number + 1) =
      Nat.count (IsSpare names name) (number + 1) + if IsOpen names name 0 then 1 else 0 := by
  induction number with
  | zero => simp [Nat.count_succ, IsSpare]
  | succ number ih =>
      have hsame : IsSpare names name (number + 1) ↔ IsOpen names name (number + 1) := by
        rw [isSpare_iff, and_iff_right (Nat.succ_pos number)]
      rw [Nat.count_succ, ih, Nat.count_succ _ (number + 1)]
      simp only [hsame]
      omega

/-- Spare numbers are the open positions behind the first. -/
theorem openPosition_add (names : List String) (name : String) (place : Nat) :
    openPosition names name (place + if IsOpen names name 0 then 1 else 0) =
      spareNumber names name place := by
  have hspare := isSpare_spareNumber names name place
  have hplace : Nat.count (IsSpare names name) (spareNumber names name place) = place :=
    Nat.count_nth_of_infinite (infinite_isSpare names name) place
  generalize spareNumber names name place = number at hspare hplace ⊢
  obtain ⟨number, rfl⟩ := Nat.exists_eq_succ_of_ne_zero (Nat.ne_of_gt hspare.1)
  rw [← hplace, ← count_isOpen_succ]
  exact Nat.nth_count (isSpare_iff.mp hspare).2

theorem candidate_spareNumber (names : List String) (name : String) (place : Nat) :
    candidate name (spareNumber names name place) =
      suffixed name (spareNumber names name place) :=
  candidate_of_pos (isSpare_spareNumber names name place).1

/-! ### The closed form -/

/-- The identifier of an occurrence of a name by its number, counted from zero. A name that cannot
have its escaped form begins with the first spare number, any other name with the second
occurrence. -/
noncomputable def identOfOccurrence (names : List String) (name : String) : Nat → String
  | 0 =>
    if isReserved name then
      if escape name ∈ names then suffixed name (spareNumber names name 0) else escape name
    else name
  | repeats + 1 =>
    if isReserved name ∧ escape name ∈ names then
      suffixed name (spareNumber names name (repeats + 1))
    else suffixed name (spareNumber names name repeats)

theorem candidate_openPosition (names : List String) (name : String) (number : Nat) :
    candidate name (openPosition names name number) = identOfOccurrence names name number := by
  have hposition := openPosition_add names name
  by_cases hopen : IsOpen names name 0
  · simp only [if_pos hopen] at hposition
    have hescaped : ¬(isReserved name = true ∧ escape name ∈ names) := by
      rw [not_and_or, Bool.not_eq_true]
      exact isOpen_zero_iff.mp hopen
    cases number with
    | zero =>
        have hzero : openPosition names name 0 = 0 := Nat.nth_zero_of_zero hopen
        rw [hzero, candidate_zero, identOfOccurrence]
        cases hreserved : isReserved name with
        | false => rw [escape_of_not_isReserved hreserved]; rfl
        | true => rw [if_pos rfl, if_neg fun htaken => hescaped ⟨hreserved, htaken⟩]
    | succ repeats =>
        rw [hposition, candidate_spareNumber, identOfOccurrence, if_neg hescaped]
  · simp only [if_neg hopen, Nat.add_zero] at hposition
    rw [isOpen_zero_iff, not_or, Bool.not_eq_false, not_not] at hopen
    rw [hposition, candidate_spareNumber]
    cases number with
    | zero => rw [identOfOccurrence, if_pos hopen.1, if_pos hopen.2]
    | succ repeats => rw [identOfOccurrence, if_pos hopen]

theorem identFor_eq (names : List String) (slot : Slot) :
    identFor names slot = identOfOccurrence names slot.1 (occurrence names slot) :=
  candidate_openPosition names slot.1 _

theorem getElem?_allocateUnique (names : List String) (place : Nat) :
    (allocateUnique names)[place]? = names[place]?.map fun name =>
      identOfOccurrence names name ((names.take place).count name) := by
  rw [allocateUnique_eq_map_identFor, List.getElem?_map, List.getElem?_zipIdx, Option.map_map]
  congr 1
  funext name
  rw [Function.comp_apply, identFor_eq, Nat.zero_add, occurrence, List.countBefore_eq_count_take]

/-- The first occurrence of a plain name keeps its spelling, whatever the list holds besides. -/
theorem getElem?_allocateUnique_of_first {place : Nat} (hplace : names[place]? = some name)
    (hfirst : name ∉ names.take place) (hplain : isReserved name = false) :
    (allocateUnique names)[place]? = some name := by
  rw [getElem?_allocateUnique, hplace, Option.map_some, List.count_eq_zero_of_not_mem hfirst,
    identOfOccurrence, hplain]
  rfl

theorem identOfOccurrence_congr (hsame : ∀ name, name ∈ others ↔ name ∈ names) :
    identOfOccurrence others = identOfOccurrence names := by
  have hopen : IsOpen others = IsOpen names := by
    funext name position
    simp only [IsOpen, hsame]
  funext name number
  rw [← candidate_openPosition, ← candidate_openPosition, openPosition, openPosition, hopen]

theorem zip_allocateUnique (names : List String) :
    names.zip (allocateUnique names) = (occurrences names).map fun (name, number) =>
      (name, identOfOccurrence names name number) := by
  have hnames : names.zipIdx.map Prod.fst = names := List.zipIdx_map_fst 0 names
  calc names.zip (allocateUnique names)
      = (names.zipIdx.map Prod.fst).zip (names.zipIdx.map (identFor names)) := by
        rw [hnames, ← allocateUnique_eq_map_identFor]
    _ = names.zipIdx.map fun slot => (slot.1, identFor names slot) := List.zip_map'
    _ = _ := by
        rw [occurrences, List.map_map]
        apply List.map_congr_left
        intro slot _
        rw [Function.comp_apply, identFor_eq]

/-- The identifier of each occurrence of a name is given by the number of the occurrence and the
numbers that are spare for the name. It depends only on which names are in the list. -/
theorem allocateUnique_by_occurrence (names : List String) :
    (∀ name, StrictMono (spareNumber names name) ∧
      ∀ number, (∃ place, spareNumber names name place = number) ↔
        0 < number ∧ suffixed name number ∉ names) ∧
      (∀ place, (allocateUnique names)[place]? = names[place]?.map fun name =>
        identOfOccurrence names name ((names.take place).count name)) ∧
      (∀ others : List String, (∀ name, name ∈ others ↔ name ∈ names) →
        ∀ place spot name, names[place]? = some name → others[spot]? = some name →
          (names.take place).count name = (others.take spot).count name →
            (allocateUnique others)[spot]? = (allocateUnique names)[place]?) ∧
      ∀ others, names.Perm others →
        (names.zip (allocateUnique names)).Perm (others.zip (allocateUnique others)) := by
  refine ⟨?_, getElem?_allocateUnique names, ?_, ?_⟩
  · intro name
    exact ⟨strictMono_spareNumber names name, fun number => exists_spareNumber_eq_iff⟩
  · intro others hsame place spot name hplace hspot hnumber
    rw [getElem?_allocateUnique, getElem?_allocateUnique, hplace, hspot, Option.map_some,
      Option.map_some, identOfOccurrence_congr hsame, hnumber]
  · intro others hperm
    rw [zip_allocateUnique, zip_allocateUnique,
      identOfOccurrence_congr fun name => hperm.symm.mem_iff]
    exact (occurrences_perm hperm).map _

/-- A keyword whose escaped form is a name of the list, and a repeat whose first number is taken. -/
def crowded : List String := ["crate", "crate_", "crate", "T", "T", "T_1"]

def shuffled : List String := ["T_1", "crate", "T", "crate_", "T", "crate"]

theorem allocateUnique_crowded :
    crowded.Perm shuffled ∧
      (crowded.zip (allocateUnique crowded)).Perm (shuffled.zip (allocateUnique shuffled)) ∧
      (allocateUnique shuffled)[4]? = (allocateUnique crowded)[4]? ∧
      (allocateUnique crowded)[4]? = some "T_2" := by
  have hperm : crowded.Perm shuffled := by decide +kernel
  obtain ⟨-, hform, hplaces, hshuffled⟩ := allocateUnique_by_occurrence crowded
  have hspare : spareNumber crowded "T" 0 = 2 := by
    have hcount : Nat.count (IsSpare crowded "T") 2 = 0 := by decide +kernel
    rw [spareNumber, ← hcount]
    exact Nat.nth_count (by decide +kernel)
  refine ⟨hperm, hshuffled shuffled hperm, ?_, ?_⟩
  · exact hplaces shuffled (fun name => hperm.symm.mem_iff) 4 4 "T" rfl rfl (by decide +kernel)
  · rw [hform]
    change some (identOfOccurrence crowded "T" 1) = some "T_2"
    rw [identOfOccurrence, if_neg (by decide +kernel), hspare]
    rfl

end TypeMetadata.Identifier
