import TypeMetadata.Proofs.Catalog.Insertion

/-!
The two indexes of a catalog agree with what it holds. Whatever is recorded keeps them so, and a
look-up is then a question about the rows.
-/

namespace TypeMetadata.Catalog

/-- The indexes tell exactly where the invoker of each method stands and which type has each id. -/
structure Indexed (catalog : Catalog) : Prop where
  position_iff : ∀ key position, catalog.invokerIndex[key]? = some position ↔
    ∃ invoker : InvokerDescriptor,
      (catalog.rows .invokers)[position]? = some invoker ∧ invoker.key = key
  owner_iff : ∀ id ty, catalog.wellKnownIndex[id]? = some ty ↔
    (ty, id) ∈ catalog.rows .wellKnownIds
  ids_nodup : ((catalog.rows .wellKnownIds).map Prod.snd).Nodup

theorem indexed_empty : empty.Indexed where
  position_iff key position := by simp [empty, rows]
  owner_iff id ty := by simp [empty, rows]
  ids_nodup := by simp

namespace Indexed

variable {catalog : Catalog}

theorem hasInvoker_iff (hindexed : catalog.Indexed) (key : MethodKey) :
    catalog.hasInvoker key = true ↔
      ∃ invoker : InvokerDescriptor, invoker ∈ catalog.rows .invokers ∧ invoker.key = key := by
  rw [hasInvoker, Std.ExtHashMap.contains_eq_isSome_getElem?, Option.isSome_iff_exists]
  constructor
  · rintro ⟨position, hposition⟩
    obtain ⟨invoker, hrow, hkey⟩ := (hindexed.position_iff key position).mp hposition
    exact ⟨invoker, List.mem_of_getElem? hrow, hkey⟩
  · rintro ⟨invoker, hrow, hkey⟩
    obtain ⟨position, hrow⟩ := List.mem_iff_getElem?.mp hrow
    exact ⟨position, (hindexed.position_iff key position).mpr ⟨invoker, hrow, hkey⟩⟩

theorem invoker?_eq_some_iff (hindexed : catalog.Indexed) (key : MethodKey)
    (invoker : InvokerDescriptor) :
    catalog.invoker? key = some invoker ↔
      invoker ∈ catalog.rows .invokers ∧ invoker.key = key := by
  rw [invoker?, Option.bind_eq_some_iff]
  constructor
  · rintro ⟨position, hposition, hrow⟩
    obtain ⟨other, hother, hkey⟩ := (hindexed.position_iff key position).mp hposition
    rw [rows, Array.getElem?_toList, hrow, Option.some_inj] at hother
    subst hother
    exact ⟨Array.mem_toList_iff.mpr (Array.mem_of_getElem? hrow), hkey⟩
  · rintro ⟨hrow, hkey⟩
    obtain ⟨position, hrow⟩ := List.mem_iff_getElem?.mp hrow
    refine ⟨position, (hindexed.position_iff key position).mpr ⟨invoker, hrow, hkey⟩, ?_⟩
    rwa [rows, Array.getElem?_toList] at hrow

theorem keys_nodup (hindexed : catalog.Indexed) :
    ((catalog.rows .invokers).map InvokerDescriptor.key).Nodup := by
  rw [List.Nodup, List.pairwise_map, List.pairwise_iff_getElem]
  intro i j hi hj hij heq
  have hfirst := (hindexed.position_iff _ i).mpr ⟨_, List.getElem?_eq_getElem hi, rfl⟩
  have hsecond := (hindexed.position_iff _ j).mpr ⟨_, List.getElem?_eq_getElem hj, rfl⟩
  rw [heq, hsecond, Option.some_inj] at hfirst
  omega

theorem add_invoker (hindexed : catalog.Indexed) {descriptor : InvokerDescriptor}
    (hfree : catalog.hasInvoker descriptor.key = false) :
    (catalog.add (.invoker descriptor)).Indexed := by
  have hrows : (catalog.add (.invoker descriptor)).rows .invokers =
      catalog.rows .invokers ++ [descriptor] := rows_add _ _ _
  have hlast : (catalog.rows .invokers).length = catalog.invokers.size := Array.length_toList
  have hothers : ∀ other : InvokerDescriptor, other ∈ catalog.rows .invokers →
      other.key ≠ descriptor.key := by
    intro other hother hkey
    rw [(hindexed.hasInvoker_iff descriptor.key).mpr ⟨other, hother, hkey⟩] at hfree
    cases hfree
  refine ⟨?_, hindexed.owner_iff, hindexed.ids_nodup⟩
  intro key position
  rw [hrows]
  change (catalog.invokerIndex.insert descriptor.key catalog.invokers.size)[key]? = _ ↔ _
  rw [Std.ExtHashMap.getElem?_insert, ← hlast]
  by_cases hkey : descriptor.key = key
  · subst hkey
    rw [if_pos (by simp), Option.some_inj]
    constructor
    · rintro rfl
      exact ⟨descriptor, List.getElem?_concat_length, rfl⟩
    · rintro ⟨other, hrow, hsame⟩
      rw [List.getElem?_append] at hrow
      split at hrow
      · exact absurd hsame (hothers other (List.mem_of_getElem? hrow))
      · have hzero := (List.getElem?_eq_some_iff.mp hrow).1
        rw [List.length_singleton] at hzero
        omega
  · rw [if_neg (by simpa using hkey), hindexed.position_iff]
    refine exists_congr fun other => and_congr_left ?_
    rintro rfl
    rw [List.getElem?_append]
    split
    · exact Iff.rfl
    · rename_i hposition
      rw [List.getElem?_eq_none (Nat.le_of_not_lt hposition)]
      constructor
      · intro hrow
        cases hrow
      · intro hrow
        have heq := List.mem_singleton.mp (List.mem_of_getElem? hrow)
        exact absurd (heq ▸ rfl) hkey

theorem add_wellKnownId (hindexed : catalog.Indexed) {ty : TypeHandle} {id : UInt32}
    (hfree : catalog.wellKnownIndex[id]? = none) :
    (catalog.add (.wellKnownId ty id)).Indexed := by
  have hrows : (catalog.add (.wellKnownId ty id)).rows .wellKnownIds =
      catalog.rows .wellKnownIds ++ [(ty, id)] := rows_add _ _ _
  have hothers : ∀ owner, (owner, id) ∉ catalog.rows .wellKnownIds := by
    intro owner hrow
    rw [(hindexed.owner_iff id owner).mpr hrow] at hfree
    cases hfree
  refine ⟨hindexed.position_iff, ?_, ?_⟩
  · intro other owner
    rw [hrows]
    change (catalog.wellKnownIndex.insert id ty)[other]? = _ ↔ _
    rw [Std.ExtHashMap.getElem?_insert, List.mem_append, List.mem_singleton, Prod.mk.injEq]
    by_cases hid : id = other
    · subst hid
      simp [hothers, eq_comm]
    · rw [if_neg (by simpa using hid), hindexed.owner_iff]
      simp [Ne.symm hid]
  · rw [hrows, List.map_append, List.nodup_append]
    refine ⟨hindexed.ids_nodup, by simp, ?_⟩
    intro other hother id' hid'
    obtain ⟨⟨owner, _⟩, hrow, rfl⟩ := List.mem_map.mp hother
    obtain rfl := List.mem_singleton.mp hid'
    rintro rfl
    exact hothers owner hrow

theorem add (hindexed : catalog.Indexed) {entry : Entry}
    (hrefusal : catalog.refusal? entry = none) : (catalog.add entry).Indexed := by
  cases entry with
  | invoker descriptor =>
      exact hindexed.add_invoker ((refusal?_invoker_eq_none_iff _ _).mp hrefusal)
  | wellKnownId ty id =>
      rw [refusal?, Option.map_eq_none_iff] at hrefusal
      exact hindexed.add_wellKnownId hrefusal
  | _ => exact ⟨hindexed.position_iff, hindexed.owner_iff, hindexed.ids_nodup⟩

theorem addAll (hindexed : catalog.Indexed) {entries : List Entry}
    (hadmits : catalog.Admits entries) : (catalog.addAll entries).Indexed := by
  induction entries generalizing catalog with
  | nil => exact hindexed
  | cons entry entries ih => exact ih (hindexed.add hadmits.1) hadmits.2

end Indexed

end TypeMetadata.Catalog
