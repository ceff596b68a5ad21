import TypeMetadata.Proofs.Catalog.Index
import TypeMetadata.Proofs.Descriptor.Invokers
import TypeMetadata.Proofs.Extraction.Item

/-!
Why an item is turned away, said about the items alone. A catalog that reflects the items accepted
so far turns the next one away for exactly these reasons.
-/

namespace TypeMetadata

variable {program : Program} {runtime : RuntimeTypes} {catalog : Catalog} {accepted : Item → Prop}

/-- A method has the key of one listed before it, or of one of an accepted interface. -/
def MethodDescriptor.IsTaken (accepted : Item → Prop) (before : List MethodDescriptor)
    (method : MethodDescriptor) : Prop :=
  (∃ other ∈ before, other.key = method.key) ∨
    ∃ item, accepted (.interface item) ∧ ∃ other ∈ item.methods, other.key = method.key

/-- How an item clashes with the accepted items or with itself. Of several methods that are taken
the first counts. -/
def Item.ClashesBy (accepted : Item → Prop) : Item → CatalogError → Prop
  | .type item, error => ∃ id other, item.wellKnownId = some id ∧ accepted (.type other) ∧
      other.wellKnownId = some id ∧ error = .duplicateWellKnownId id other.type item.type
  | .interface item, error => ∃ before method after, item.methods = before ++ method :: after ∧
      method.IsTaken accepted before ∧
      (∀ first other last, before = first ++ other :: last → ¬other.IsTaken accepted first) ∧
      error = .duplicateInvoker method.name
  | .provider _, _ => False

namespace Item

theorem mem_rows_wellKnownIds {item : Item} {outcome : Outcome}
    (hextract : item.extract program runtime = .ok (.ok outcome)) (ty : TypeHandle) (id : UInt32) :
    (ty, id) ∈ outcome.rows .wellKnownIds ↔
      ∃ own, .type own = item ∧ own.wellKnownId = some id ∧ own.type = ty := by
  rcases extract_cases hextract with
    ⟨own, _, _, rfl, htype, rfl⟩ | ⟨_, _, rfl, -, -, rfl⟩ | ⟨_, _, rfl, rfl⟩
  · simp [Outcome.rows, htype]
  · simp [Outcome.rows]
  · simp [Outcome.rows]

theorem exists_mem_rows_invokers {item : Item} {outcome : Outcome}
    (hextract : item.extract program runtime = .ok (.ok outcome)) (key : MethodKey) :
    (∃ invoker : InvokerDescriptor, invoker ∈ outcome.rows .invokers ∧ invoker.key = key) ↔
      ∃ own, .interface own = item ∧ ∃ method ∈ own.methods, method.key = key := by
  rcases extract_cases hextract with
    ⟨_, _, _, rfl, -, rfl⟩ | ⟨own, descriptor, rfl, hmethods, -, rfl⟩ | ⟨_, _, rfl, rfl⟩
  · simp [Outcome.rows]
  · simp only [Outcome.rows, ← List.mem_map, InterfaceDescriptor.map_key_invokers, hmethods,
      Item.interface.injEq, exists_eq_left]
  · simp [Outcome.rows]

end Item

namespace Catalog

/-- The ids that are given away and the methods that have invokers are those of the accepted
items. -/
structure Reflects (catalog : Catalog) (accepted : Item → Prop) : Prop where
  indexed : catalog.Indexed
  ids_iff : ∀ ty id, (ty, id) ∈ catalog.rows .wellKnownIds ↔
    ∃ item, accepted (.type item) ∧ item.wellKnownId = some id ∧ item.type = ty
  keys_iff : ∀ key,
    (∃ invoker : InvokerDescriptor, invoker ∈ catalog.rows .invokers ∧ invoker.key = key) ↔
      ∃ item, accepted (.interface item) ∧ ∃ method ∈ item.methods, method.key = key

namespace Reflects

theorem lists_iff (hreflects : catalog.Reflects accepted) (before : List MethodDescriptor)
    (method : MethodDescriptor) :
    catalog.Lists [] before method ↔ method.IsTaken accepted before := by
  rw [Lists, hreflects.indexed.hasInvoker_iff, hreflects.keys_iff, MethodDescriptor.IsTaken]
  simp only [List.not_mem_nil, false_or, or_comm]

/-- An item is refused for the clash that it has with the accepted items. -/
theorem rejection?_eq_some_iff (hreflects : catalog.Reflects accepted) {item : Item}
    {outcome : Outcome} (hextract : item.extract program runtime = .ok (.ok outcome))
    (error : CatalogError) :
    catalog.rejection? outcome = some error ↔ item.ClashesBy accepted error := by
  rcases Item.extract_cases hextract with
    ⟨own, descriptor, _, rfl, htype, rfl⟩ | ⟨own, descriptor, rfl, hmethods, -, rfl⟩ |
    ⟨_, _, rfl, rfl⟩
  · simp only [rejection?, refusal?, Item.ClashesBy, Option.bind_eq_some_iff,
      Option.map_eq_some_iff, hreflects.indexed.owner_iff, hreflects.ids_iff, htype]
    constructor
    · rintro ⟨id, hid, _, ⟨other, hother, hsame, rfl⟩, rfl⟩
      exact ⟨id, other, hid, hother, hsame, rfl⟩
    · rintro ⟨id, other, hid, hother, hsame, rfl⟩
      exact ⟨id, hid, _, ⟨other, hother, hsame, rfl⟩, rfl⟩
  · have hfirst := conflict?_method_eq_some_iff catalog [] descriptor.invokers
    simp only [descriptor.map_method_invokers, hmethods, hreflects.lists_iff] at hfirst
    simp only [rejection?, Item.ClashesBy, Option.map_eq_some_iff]
    constructor
    · rintro ⟨invoker, hconflict, rfl⟩
      obtain ⟨before, after, hsplit, htaken, hbefore⟩ :=
        (hfirst invoker.method).mp (by rw [hconflict]; rfl)
      exact ⟨before, _, after, hsplit, htaken, hbefore, rfl⟩
    · rintro ⟨before, method, after, hsplit, htaken, hbefore, rfl⟩
      obtain ⟨invoker, hconflict, rfl⟩ := Option.map_eq_some_iff.mp
        ((hfirst method).mpr ⟨before, after, hsplit, htaken, hbefore⟩)
      exact ⟨invoker, hconflict, rfl⟩
  · simp [rejection?, Item.ClashesBy]

theorem addAll (hreflects : catalog.Reflects accepted) {item : Item} {outcome : Outcome}
    (hextract : item.extract program runtime = .ok (.ok outcome))
    (hrejection : catalog.rejection? outcome = none) :
    (catalog.addAll outcome.entries).Reflects fun other => accepted other ∨ other = item := by
  refine ⟨hreflects.indexed.addAll (admits_entries catalog hrejection), ?_, ?_⟩
  · intro ty id
    rw [rows_addAll_entries, List.mem_append, hreflects.ids_iff,
      Item.mem_rows_wellKnownIds hextract]
    constructor
    · rintro (⟨other, hother, hid⟩ | ⟨other, rfl, hid⟩)
      · exact ⟨other, .inl hother, hid⟩
      · exact ⟨other, .inr rfl, hid⟩
    · rintro ⟨other, hother | rfl, hid⟩
      · exact .inl ⟨other, hother, hid⟩
      · exact .inr ⟨other, rfl, hid⟩
  · intro key
    simp only [rows_addAll_entries, List.mem_append, or_and_right, exists_or, hreflects.keys_iff,
      Item.exists_mem_rows_invokers hextract]

end Reflects

end Catalog

end TypeMetadata
