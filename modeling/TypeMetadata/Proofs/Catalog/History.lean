import TypeMetadata.Proofs.Catalog.Index

/-!
What a catalog knows of its past. Entries are offered one after another, and some are refused. The
look-ups answer with the first invoker that was offered for a method and the first type that was
offered for an id, and a refusal is always about one of these.
-/

namespace TypeMetadata

theorem find?_filterMap_cons {α β : Type} (f : α → Option β) (p : β → Bool) (a : α) (as : List α) :
    ((a :: as).filterMap f).find? p = ((f a).filter p).or ((as.filterMap f).find? p) := by
  rw [List.filterMap_cons]
  cases f a with
  | none => rfl
  | some b =>
      rw [List.find?_cons, Option.filter_some]
      cases p b <;> rfl

namespace Entry

/-- The first of the invokers among some entries that is for a method. -/
def firstInvoker? (entries : List Entry) (key : MethodKey) : Option InvokerDescriptor :=
  (entries.filterMap (·.row? .invokers)).find? (·.key == key)

/-- The type that is the first among some entries to ask for an id. -/
def firstOwner? (entries : List Entry) (id : UInt32) : Option TypeHandle :=
  ((entries.filterMap (·.row? .wellKnownIds)).find? (·.2 == id)).map Prod.fst

theorem firstInvoker?_cons (entry : Entry) (entries : List Entry) (key : MethodKey) :
    firstInvoker? (entry :: entries) key =
      ((entry.row? .invokers).filter (·.key == key)).or (firstInvoker? entries key) :=
  find?_filterMap_cons _ _ entry entries

theorem firstOwner?_cons (entry : Entry) (entries : List Entry) (id : UInt32) :
    firstOwner? (entry :: entries) id =
      (((entry.row? .wellKnownIds).filter (·.2 == id)).map Prod.fst).or
        (firstOwner? entries id) := by
  rw [firstOwner?, find?_filterMap_cons, Option.map_or]
  rfl

theorem isSome_firstInvoker?_iff (entries : List Entry) (key : MethodKey) :
    (firstInvoker? entries key).isSome = true ↔
      ∃ invoker, .invoker invoker ∈ entries ∧ invoker.key = key := by
  rw [firstInvoker?, List.find?_isSome]
  simp only [List.mem_filterMap, beq_iff_eq]
  constructor
  · rintro ⟨invoker, ⟨entry, hentry, hrow⟩, hkey⟩
    refine ⟨invoker, ?_, hkey⟩
    cases entry <;> simp_all [row?]
  · rintro ⟨invoker, hentry, hkey⟩
    exact ⟨invoker, ⟨_, hentry, rfl⟩, hkey⟩

end Entry

namespace Catalog

variable {catalog : Catalog}

/-- The catalog after an entry was offered to it, taken or not. -/
def offer (catalog : Catalog) (entry : Entry) : Catalog :=
  (catalog.perform entry.record).2

def offerAll (catalog : Catalog) (entries : List Entry) : Catalog :=
  entries.foldl offer catalog

theorem offer_of_refused {entry : Entry} {error : CatalogError}
    (hrefusal : catalog.refusal? entry = some error) : catalog.offer entry = catalog := by
  rw [offer, perform_record, hrefusal]

theorem offer_of_admitted {entry : Entry} (hrefusal : catalog.refusal? entry = none) :
    catalog.offer entry = catalog.add entry := by
  rw [offer, perform_record, hrefusal]

theorem perform_record_eq_error_iff (catalog : Catalog) (entry : Entry) (error : CatalogError) :
    (catalog.perform entry.record).1 = .error error ↔ catalog.refusal? entry = some error := by
  rw [perform_record]
  cases catalog.refusal? entry <;> simp

theorem invoker?_empty (key : MethodKey) : empty.invoker? key = none := by
  simp [invoker?, empty]

theorem getElem?_wellKnownIndex_empty (id : UInt32) : empty.wellKnownIndex[id]? = none := by
  simp [empty]

theorem invoker?_add (catalog : Catalog) {entry : Entry} (hrow : entry.row? .invokers = none)
    (key : MethodKey) : (catalog.add entry).invoker? key = catalog.invoker? key := by
  cases entry with
  | invoker descriptor => cases hrow
  | _ => rfl

theorem getElem?_wellKnownIndex_add (catalog : Catalog) {entry : Entry}
    (hrow : entry.row? .wellKnownIds = none) (id : UInt32) :
    (catalog.add entry).wellKnownIndex[id]? = catalog.wellKnownIndex[id]? := by
  cases entry with
  | wellKnownId ty own => cases hrow
  | _ => rfl

theorem getElem?_wellKnownIndex_offer (catalog : Catalog) (entry : Entry) (id : UInt32) :
    (catalog.offer entry).wellKnownIndex[id]? =
      (catalog.wellKnownIndex[id]?).or
        (((entry.row? .wellKnownIds).filter (·.2 == id)).map Prod.fst) := by
  cases hrow : entry.row? .wellKnownIds with
  | none =>
      rw [Option.filter_none, Option.map_none, Option.or_none]
      cases hrefusal : catalog.refusal? entry with
      | none => rw [offer_of_admitted hrefusal, getElem?_wellKnownIndex_add catalog hrow]
      | some error => rw [offer_of_refused hrefusal]
  | some row =>
      obtain ⟨ty, own⟩ := row
      obtain rfl : entry = .wellKnownId ty own := by
        cases entry <;> simp_all [Entry.row?]
      rw [Option.filter_some]
      cases hindex : catalog.wellKnownIndex[own]? with
      | none =>
          rw [offer_of_admitted (by rw [refusal?, hindex]; rfl)]
          change (catalog.wellKnownIndex.insert own ty)[id]? = _
          rw [Std.ExtHashMap.getElem?_insert]
          by_cases hid : own = id
          · subst hid
            simp [hindex]
          · simp [hid]
      | some owner =>
          -- The id is given away, so the answers stay as they are, that for the id included.
          rw [offer_of_refused (by rw [refusal?, hindex]; rfl)]
          by_cases hid : own = id
          · subst hid
            rw [hindex, Option.some_or]
          · simp [hid]

namespace Indexed

theorem isSome_invoker? (hindexed : catalog.Indexed) (key : MethodKey) :
    (catalog.invoker? key).isSome = catalog.hasInvoker key := by
  rw [Bool.eq_iff_iff, hindexed.hasInvoker_iff, Option.isSome_iff_exists]
  exact exists_congr fun invoker => hindexed.invoker?_eq_some_iff key invoker

theorem offer (hindexed : catalog.Indexed) (entry : Entry) : (catalog.offer entry).Indexed := by
  cases hrefusal : catalog.refusal? entry with
  | none =>
      rw [offer_of_admitted hrefusal]
      exact hindexed.add hrefusal
  | some error => rwa [offer_of_refused hrefusal]

theorem offerAll (hindexed : catalog.Indexed) (entries : List Entry) :
    (catalog.offerAll entries).Indexed := by
  induction entries generalizing catalog with
  | nil => exact hindexed
  | cons entry entries ih => exact ih (hindexed.offer entry)

theorem isSome_invoker?_of_refused (hindexed : catalog.Indexed) {invoker : InvokerDescriptor}
    {error : CatalogError} (hrefusal : catalog.refusal? (.invoker invoker) = some error) :
    (catalog.invoker? invoker.key).isSome = true := by
  rw [hindexed.isSome_invoker?, ← Bool.not_eq_false, ← refusal?_invoker_eq_none_iff, hrefusal]
  exact Option.some_ne_none error

theorem invoker?_add_of_admitted (hindexed : catalog.Indexed) {invoker : InvokerDescriptor}
    (hrefusal : catalog.refusal? (.invoker invoker) = none) (key : MethodKey) :
    (catalog.add (.invoker invoker)).invoker? key =
      (catalog.invoker? key).or ((some invoker).filter (·.key == key)) := by
  have hfree : catalog.invoker? invoker.key = none := by
    rw [← Option.isNone_iff_eq_none, ← Option.isSome_eq_false_iff, hindexed.isSome_invoker?]
    exact (refusal?_invoker_eq_none_iff _ _).mp hrefusal
  apply Option.ext
  intro other
  rw [(hindexed.add hrefusal).invoker?_eq_some_iff, rows_add, List.mem_append, or_and_right,
    ← hindexed.invoker?_eq_some_iff, Option.or_eq_some_iff]
  refine or_congr_right ?_
  simp only [Entry.row?, Option.toList_some, List.mem_singleton, Option.filter_some]
  constructor
  · rintro ⟨rfl, rfl⟩
    exact ⟨hfree, by simp⟩
  · rintro ⟨-, hother⟩
    split at hother <;> simp_all

/-- An offer answers for a method only if nothing has answered for it before. -/
theorem invoker?_offer (hindexed : catalog.Indexed) (entry : Entry) (key : MethodKey) :
    (catalog.offer entry).invoker? key =
      (catalog.invoker? key).or ((entry.row? .invokers).filter (·.key == key)) := by
  cases hrow : entry.row? .invokers with
  | none =>
      rw [Option.filter_none, Option.or_none]
      cases hrefusal : catalog.refusal? entry with
      | none => rw [offer_of_admitted hrefusal, invoker?_add catalog hrow]
      | some error => rw [offer_of_refused hrefusal]
  | some invoker =>
      obtain rfl : entry = .invoker invoker := by
        cases entry <;> simp_all [Entry.row?]
      cases hrefusal : catalog.refusal? (.invoker invoker) with
      | none => rw [offer_of_admitted hrefusal, hindexed.invoker?_add_of_admitted hrefusal]
      | some error =>
          rw [offer_of_refused hrefusal]
          by_cases hkey : invoker.key = key
          · subst hkey
            obtain ⟨first, hfirst⟩ :=
              Option.isSome_iff_exists.mp (hindexed.isSome_invoker?_of_refused hrefusal)
            rw [hfirst, Option.some_or]
          · simp [hkey, Option.filter_some]

theorem invoker?_offerAll (hindexed : catalog.Indexed) (entries : List Entry) (key : MethodKey) :
    (catalog.offerAll entries).invoker? key =
      (catalog.invoker? key).or (Entry.firstInvoker? entries key) := by
  induction entries generalizing catalog with
  | nil => exact Option.or_none.symm
  | cons entry entries ih =>
      rw [Entry.firstInvoker?_cons, ← Option.or_assoc, ← hindexed.invoker?_offer]
      exact ih (hindexed.offer entry)

end Indexed

theorem getElem?_wellKnownIndex_offerAll (catalog : Catalog) (entries : List Entry)
    (id : UInt32) :
    (catalog.offerAll entries).wellKnownIndex[id]? =
      (catalog.wellKnownIndex[id]?).or (Entry.firstOwner? entries id) := by
  induction entries generalizing catalog with
  | nil => exact Option.or_none.symm
  | cons entry entries ih =>
      rw [Entry.firstOwner?_cons, ← Option.or_assoc, ← getElem?_wellKnownIndex_offer]
      exact ih (catalog.offer entry)

theorem refusal?_invoker_offerAll_iff (entries : List Entry) (invoker : InvokerDescriptor)
    (error : CatalogError) :
    (empty.offerAll entries).refusal? (.invoker invoker) = some error ↔
      (∃ earlier, .invoker earlier ∈ entries ∧ earlier.key = invoker.key) ∧
        error = .duplicateInvoker invoker.method.name := by
  rw [refusal?, ← (indexed_empty.offerAll entries).isSome_invoker?,
    indexed_empty.invoker?_offerAll entries, invoker?_empty, Option.none_or,
    ← Entry.isSome_firstInvoker?_iff, Option.ite_none_right_eq_some, Option.some_inj,
    eq_comm (a := error)]

theorem refusal?_wellKnownId_offerAll_iff (entries : List Entry) (ty : TypeHandle) (id : UInt32)
    (error : CatalogError) :
    (empty.offerAll entries).refusal? (.wellKnownId ty id) = some error ↔
      ∃ first, Entry.firstOwner? entries id = some first ∧
        error = .duplicateWellKnownId id first ty := by
  rw [refusal?, getElem?_wellKnownIndex_offerAll, getElem?_wellKnownIndex_empty, Option.none_or,
    Option.map_eq_some_iff]
  simp only [eq_comm]

/-- Whatever is offered to an empty catalog, both indexes agree with the rows. The first offer for a
method or for an id is the one that is found, and it is the reason to refuse every later one. -/
theorem first_offer_counts (entries : List Entry) :
    (∀ key position, (empty.offerAll entries).invokerIndex[key]? = some position ↔
        ∃ invoker : InvokerDescriptor,
          (empty.offerAll entries).invokers[position]? = some invoker ∧ invoker.key = key) ∧
      ((empty.offerAll entries).invokers.toList.map InvokerDescriptor.key).Nodup ∧
      (∀ id ty, (empty.offerAll entries).wellKnownIndex[id]? = some ty ↔
        (ty, id) ∈ (empty.offerAll entries).wellKnownIds) ∧
      ((empty.offerAll entries).wellKnownIds.toList.map Prod.snd).Nodup ∧
      (∀ method : MethodDescriptor,
        (empty.offerAll entries).invoker? method.key = Entry.firstInvoker? entries method.key ∧
          (empty.offerAll entries).hasInvoker method.key =
            (Entry.firstInvoker? entries method.key).isSome) ∧
      (∀ invoker error,
        ((empty.offerAll entries).perform (Entry.invoker invoker).record).1 = .error error ↔
          (∃ earlier, .invoker earlier ∈ entries ∧ earlier.key = invoker.key) ∧
            error = .duplicateInvoker invoker.method.name) ∧
      ∀ ty id,
        (empty.offerAll entries).hasWellKnownId id = (Entry.firstOwner? entries id).isSome ∧
          ∀ error,
            ((empty.offerAll entries).perform (Entry.wellKnownId ty id).record).1 =
                .error error ↔
              ∃ first, Entry.firstOwner? entries id = some first ∧
                error = .duplicateWellKnownId id first ty := by
  have hindexed : (empty.offerAll entries).Indexed := indexed_empty.offerAll entries
  have hinvoker : ∀ key, (empty.offerAll entries).invoker? key =
      Entry.firstInvoker? entries key := by
    intro key
    rw [indexed_empty.invoker?_offerAll, invoker?_empty, Option.none_or]
  refine ⟨?_, hindexed.keys_nodup, ?_, hindexed.ids_nodup, ?_, ?_, ?_⟩
  · intro key position
    rw [hindexed.position_iff]
    simp only [rows, Array.getElem?_toList]
  · intro id ty
    rw [hindexed.owner_iff]
    exact Array.mem_toList_iff
  · intro method
    refine ⟨hinvoker method.key, ?_⟩
    rw [← hindexed.isSome_invoker?, hinvoker]
  · intro invoker error
    rw [perform_record_eq_error_iff]
    exact refusal?_invoker_offerAll_iff entries invoker error
  · intro ty id
    refine ⟨?_, ?_⟩
    · rw [hasWellKnownId, Std.ExtHashMap.contains_eq_isSome_getElem?,
        getElem?_wellKnownIndex_offerAll, getElem?_wellKnownIndex_empty, Option.none_or]
    · intro error
      rw [perform_record_eq_error_iff]
      exact refusal?_wellKnownId_offerAll_iff entries ty id error

end Catalog

end TypeMetadata
