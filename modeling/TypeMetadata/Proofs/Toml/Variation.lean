import Mathlib.Data.List.Nodup
import TypeMetadata.Toml.Readable

/-!
Tables that tell a reader the same thing. A reader who knows certain keys, passes over all others
and falls back on defaults does not notice entries that are moved, entries under keys unknown to him
and the absence of entries that say what he would assume anyway.
-/

namespace TypeMetadata.Toml

/-! ### Entries under a key -/

namespace Table

variable {key other : String} {value : Value} {table : Table}

theorem mem_of_lookup (hlookup : table.lookup key = some value) : (key, value) ∈ table := by
  obtain ⟨before, after, rfl, -⟩ := List.lookup_eq_some_iff.mp hlookup
  exact List.mem_append_right _ List.mem_cons_self

theorem not_mem_of_lookup (hlookup : table.lookup key = none) : (key, value) ∉ table := by
  intro hmem
  have hne := List.lookup_eq_none_iff.mp hlookup _ hmem
  exact absurd rfl (bne_iff_ne.mp hne)

theorem lookup_of_mem (hkeys : (table.map Prod.fst).Nodup) (hmem : (key, value) ∈ table) :
    table.lookup key = some value := by
  cases hlookup : table.lookup key with
  | none => exact absurd hmem (not_mem_of_lookup hlookup)
  | some found =>
      have hentry := List.inj_on_of_nodup_map hkeys (mem_of_lookup hlookup) hmem rfl
      rw [(Prod.mk.inj hentry).2]

/-- The table with another value under a key, if it has the key at all. -/
def withValue (table : Table) (key : String) (value : Value) : Table :=
  table.map fun entry => if entry.1 = key then (key, value) else entry

theorem lookup_withValue :
    (table.withValue key value).lookup key = (table.lookup key).map fun _ => value := by
  induction table with
  | nil => rfl
  | cons entry table ih =>
      obtain ⟨first, _⟩ := entry
      simp only [withValue, List.map_cons] at ih ⊢
      by_cases hfirst : first = key
      · subst hfirst
        rw [if_pos rfl, List.lookup_cons_self, List.lookup_cons_self, Option.map_some]
      · have hbeq : (key == first) = false := beq_false_of_ne (Ne.symm hfirst)
        rw [if_neg hfirst, List.lookup_cons, List.lookup_cons, hbeq]
        exact ih

theorem lookup_withValue_of_ne (hne : other ≠ key) :
    (table.withValue key value).lookup other = table.lookup other := by
  induction table with
  | nil => rfl
  | cons entry table ih =>
      obtain ⟨first, _⟩ := entry
      simp only [withValue, List.map_cons] at ih ⊢
      by_cases hfirst : first = key
      · subst hfirst
        rw [if_pos rfl, List.lookup_cons, List.lookup_cons, beq_false_of_ne hne]
        exact ih
      · rw [if_neg hfirst, List.lookup_cons, List.lookup_cons, ih]

theorem mem_withValue {entry : String × Value} (hmem : entry ∈ table.withValue key value) :
    entry ∈ table ∨ entry = (key, value) := by
  obtain ⟨source, hsource, rfl⟩ := List.mem_map.mp hmem
  split
  · exact .inr rfl
  · exact .inl hsource

/-! ### Variations -/

/-- A table varies from what was written if entries that are among the defaults were left out, extra
entries under unknown keys were added, and all were put into another order. -/
def VariesFrom (known : List String) (defaults written extra table : Table) : Prop :=
  ∃ kept : Table, kept.Sublist written ∧ (∀ entry ∈ written, entry ∈ kept ∨ entry ∈ defaults) ∧
    (∀ entry ∈ extra, entry.1 ∉ known) ∧ table.Perm (kept ++ extra)

namespace VariesFrom

variable {known : List String} {defaults written extra : Table}

theorem refl : VariesFrom known defaults written [] written := by
  refine ⟨written, .refl _, fun _ hmem => .inl hmem, List.forall_mem_nil _, ?_⟩
  rw [List.append_nil]

theorem mem_written_or_mem_extra (hvaries : VariesFrom known defaults written extra table)
    {entry : String × Value} (hmem : entry ∈ table) : entry ∈ written ∨ entry ∈ extra := by
  obtain ⟨kept, hkept, -, -, hperm⟩ := hvaries
  exact (List.mem_append.mp (hperm.mem_iff.mp hmem)).imp_left fun hmem => hkept.subset hmem

theorem mem_written (hvaries : VariesFrom known defaults written extra table)
    (hkey : key ∈ known) (hmem : (key, value) ∈ table) : (key, value) ∈ written := by
  refine (hvaries.mem_written_or_mem_extra hmem).resolve_right fun hextra => ?_
  obtain ⟨-, -, -, hunknown, -⟩ := hvaries
  exact hunknown _ hextra hkey

theorem mem_or_mem_defaults (hvaries : VariesFrom known defaults written extra table)
    {entry : String × Value} (hmem : entry ∈ written) : entry ∈ table ∨ entry ∈ defaults := by
  obtain ⟨kept, -, hleft, -, hperm⟩ := hvaries
  exact (hleft entry hmem).imp_left fun hmem =>
    hperm.mem_iff.mpr (List.mem_append_left extra hmem)

/-- A reader to whom an absent entry means the default reads a variation like what was written. -/
theorem read_lookup {α : Type} (hvaries : VariesFrom known defaults written extra table)
    (hkeys : (written.map Prod.fst).Nodup) (hkey : key ∈ known) (read : Option Value → α)
    (hdefault : ∀ value, (key, value) ∈ written → (key, value) ∈ defaults →
      read (some value) = read none) :
    read (table.lookup key) = read (written.lookup key) := by
  cases htable : table.lookup key with
  | some value =>
      rw [lookup_of_mem hkeys (hvaries.mem_written hkey (mem_of_lookup htable))]
  | none =>
      cases hwritten : written.lookup key with
      | none => rfl
      | some value =>
          have hmem := mem_of_lookup hwritten
          rcases hvaries.mem_or_mem_defaults hmem with hleft | hleft
          · exact absurd hleft (not_mem_of_lookup htable)
          · exact (hdefault value hmem hleft).symm

end VariesFrom

theorem lookup_eq_of_perm {other : Table} (hkeys : (other.map Prod.fst).Nodup)
    (hperm : table.Perm other) : table.lookup key = other.lookup key := by
  have hvaries : VariesFrom [key] [] other [] table := by
    refine ⟨other, .refl _, fun _ hmem => .inl hmem, List.forall_mem_nil _, ?_⟩
    rwa [List.append_nil]
  exact hvaries.read_lookup hkeys (List.mem_singleton_self key) id nofun

end Table

/-! ### Readable parts -/

theorem areReadableElements_iff {elements : List Value} :
    areReadableElements elements = true ↔ ∀ element ∈ elements, element.isReadable = true := by
  induction elements with
  | nil => simp [areReadableElements]
  | cons element elements ih => simp [areReadableElements, ih]

theorem areReadableEntries_iff {table : Table} :
    areReadableEntries table = true ↔ ∀ entry ∈ table, entry.2.isReadable = true := by
  induction table with
  | nil => simp [areReadableEntries]
  | cons entry table ih => simp [areReadableEntries, ih]

end TypeMetadata.Toml
