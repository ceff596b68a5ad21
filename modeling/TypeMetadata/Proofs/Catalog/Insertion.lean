import TypeMetadata.Proofs.Catalog.Category
import TypeMetadata.Proofs.Catalog.Conflict

/-!
An item goes into a catalog whole or not at all. What is looked at before the first entry is enough
for every later entry, although each entry changes what the next one is checked against.
-/

namespace TypeMetadata

namespace Catalog

@[simp] theorem hasInvoker_empty (key : MethodKey) : empty.hasInvoker key = false := by
  simp [hasInvoker, empty]

theorem hasInvoker_add (catalog : Catalog) (entry : Entry) (key : MethodKey) :
    (catalog.add entry).hasInvoker key =
      ((entry.row? .invokers).any (·.key == key) || catalog.hasInvoker key) := by
  cases entry <;> simp [add, hasInvoker, Entry.row?, Std.ExtHashMap.contains_insert]

theorem refusal?_eq_none (catalog : Catalog) {entry : Entry}
    (hinvoker : entry.row? .invokers = none) (hid : entry.row? .wellKnownIds = none) :
    catalog.refusal? entry = none := by
  cases entry <;> simp_all [refusal?, Entry.row?]

theorem refusal?_invoker_eq_none_iff (catalog : Catalog) (invoker : InvokerDescriptor) :
    catalog.refusal? (.invoker invoker) = none ↔ catalog.hasInvoker invoker.key = false := by
  simp [refusal?]

/-- Whether the catalog takes entries one after another, each with those before it added. -/
def Admits (catalog : Catalog) : List Entry → Prop
  | [] => True
  | entry :: entries => catalog.refusal? entry = none ∧ (catalog.add entry).Admits entries

theorem admits_append (catalog : Catalog) (first second : List Entry) :
    catalog.Admits (first ++ second) ↔
      catalog.Admits first ∧ (catalog.addAll first).Admits second := by
  induction first generalizing catalog with
  | nil => simp [Admits]
  | cons entry entries ih =>
      simp only [List.cons_append, Admits, ih, addAll_cons, and_assoc]

theorem admits_of_forall (catalog : Catalog) {entries : List Entry}
    (hplain : ∀ entry ∈ entries,
      entry.row? .invokers = none ∧ entry.row? .wellKnownIds = none) :
    catalog.Admits entries := by
  induction entries generalizing catalog with
  | nil => trivial
  | cons entry entries ih =>
      obtain ⟨hinvoker, hid⟩ := hplain entry (by simp)
      refine ⟨refusal?_eq_none catalog hinvoker hid, ih _ ?_⟩
      intro other hother
      exact hplain other (by simp [hother])

theorem perform_recordAll_cons (catalog : Catalog) (entry : Entry) (entries : List Entry) :
    catalog.perform (Entry.recordAll (entry :: entries)) =
      match catalog.refusal? entry with
      | some error => (.error error, catalog)
      | none => (catalog.add entry).perform (Entry.recordAll entries) := by
  rw [Entry.recordAll, perform_bind, perform_record]
  cases catalog.refusal? entry <;> rfl

theorem perform_recordAll (catalog : Catalog) {entries : List Entry}
    (hadmits : catalog.Admits entries) :
    catalog.perform (Entry.recordAll entries) = (.ok (), catalog.addAll entries) := by
  induction entries generalizing catalog with
  | nil => rfl
  | cons entry entries ih =>
      rw [perform_recordAll_cons, hadmits.1]
      exact ih _ hadmits.2

/-! ### The look at all invokers before the first entry -/

theorem admits_invokers (catalog : Catalog) {invokers : List InvokerDescriptor}
    (hnodup : (invokers.map InvokerDescriptor.key).Nodup)
    (hfree : ∀ invoker ∈ invokers, catalog.hasInvoker invoker.key = false) :
    catalog.Admits (invokers.map .invoker) := by
  induction invokers generalizing catalog with
  | nil => trivial
  | cons invoker invokers ih =>
      rw [List.map_cons, List.nodup_cons] at hnodup
      refine ⟨(refusal?_invoker_eq_none_iff catalog invoker).mpr (hfree invoker (by simp)), ?_⟩
      apply ih _ hnodup.2
      intro other hother
      -- The entry before is for another method, so it does not stand in the way of this one.
      have hdistinct : invoker.key ≠ other.key := fun heq =>
        hnodup.1 (heq ▸ List.mem_map_of_mem hother)
      rw [hasInvoker_add, hfree other (by simp [hother])]
      simpa [Entry.row?] using hdistinct

theorem admits_proxy_invokers (catalog : Catalog) {descriptor : InterfaceDescriptor}
    (hconflict : catalog.conflict? [] descriptor.invokers = none) :
    catalog.Admits (.proxy descriptor.proxy :: descriptor.invokers.map .invoker) := by
  obtain ⟨hnodup, hfree⟩ := (conflict?_eq_none_iff _ _ _).mp hconflict
  refine ⟨rfl, admits_invokers _ hnodup ?_⟩
  intro invoker hinvoker
  rw [hasInvoker_add, (hfree invoker hinvoker).1]
  rfl

/-! ### Insertion -/

def rejection? (catalog : Catalog) : Outcome → Option CatalogError
  | .type descriptor item _ =>
    item.wellKnownId.bind fun id => catalog.refusal? (.wellKnownId descriptor.type id)
  | .interface descriptor =>
    (catalog.conflict? [] descriptor.invokers).map fun invoker =>
      .duplicateInvoker invoker.method.name
  | .provider _ _ => none

end Catalog

/-- What a type adds behind its well-known id. -/
def TypeItem.furtherEntries (item : TypeItem) (descriptor : TypeDescriptor)
    (providers : Providers) : List Entry :=
  (item.alternateName.map (Entry.typeAlias descriptor.type)).toList ++
    providers.entries descriptor.type ++
    (if item.isActivatable then [.activatableType descriptor] else []) ++
    [.serializableType descriptor]

theorem Outcome.entries_type (descriptor : TypeDescriptor) (item : TypeItem)
    (providers : Providers) :
    (Outcome.type descriptor item providers).entries =
      (item.wellKnownId.map (Entry.wellKnownId descriptor.type)).toList ++
        item.furtherEntries descriptor providers := by
  simp [Outcome.entries, TypeItem.furtherEntries]

theorem Providers.row?_eq_none_of_mem {providers : Providers} {ty : TypeHandle} {entry : Entry}
    (hentry : entry ∈ providers.entries ty) :
    entry.row? .invokers = none ∧ entry.row? .wellKnownIds = none := by
  simp only [Providers.entries, List.mem_append] at hentry
  rcases hentry with (hentry | hentry) | hentry <;> split at hentry <;>
    simp_all [Entry.row?]

theorem TypeItem.row?_eq_none_of_mem {item : TypeItem} {descriptor : TypeDescriptor}
    {providers : Providers} {entry : Entry}
    (hentry : entry ∈ item.furtherEntries descriptor providers) :
    entry.row? .invokers = none ∧ entry.row? .wellKnownIds = none := by
  simp only [TypeItem.furtherEntries, List.mem_append] at hentry
  rcases hentry with ((hentry | hentry) | hentry) | hentry
  · cases hname : item.alternateName <;> simp_all [Entry.row?]
  · exact Providers.row?_eq_none_of_mem hentry
  · split at hentry <;> simp_all [Entry.row?]
  · simp_all [Entry.row?]

namespace Catalog

theorem admits_entries (catalog : Catalog) {outcome : Outcome}
    (hrejection : catalog.rejection? outcome = none) : catalog.Admits outcome.entries := by
  cases outcome with
  | type descriptor item providers =>
      rw [Outcome.entries_type, admits_append]
      refine ⟨?_, admits_of_forall _ fun entry => TypeItem.row?_eq_none_of_mem⟩
      cases hid : item.wellKnownId with
      | none => trivial
      | some id =>
          rw [rejection?, hid, Option.bind_some] at hrejection
          exact ⟨hrejection, trivial⟩
  | interface descriptor =>
      rw [rejection?, Option.map_eq_none_iff] at hrejection
      rw [Outcome.entries, admits_append]
      exact ⟨admits_proxy_invokers catalog hrejection, rfl, trivial⟩
  | provider ty providers =>
      exact admits_of_forall _ fun entry => Providers.row?_eq_none_of_mem

/-- Insertion adds all entries of an item or leaves the catalog as it was. -/
theorem perform_insert (catalog : Catalog) (outcome : Outcome) :
    catalog.perform outcome.insert =
      match catalog.rejection? outcome with
      | some error => (.error error, catalog)
      | none => (.ok (), catalog.addAll outcome.entries) := by
  cases hrejection : catalog.rejection? outcome with
  | none =>
      have hadmits := admits_entries catalog hrejection
      have hconflict : catalog.conflict? [] outcome.invokers = none := by
        cases outcome with
        | type descriptor item providers => rfl
        | interface descriptor =>
            rwa [rejection?, Option.map_eq_none_iff] at hrejection
        | provider ty providers => rfl
      rw [Outcome.insert, perform_get_bind, hconflict]
      exact perform_recordAll catalog hadmits
  | some error =>
      rw [Outcome.insert, perform_get_bind]
      cases outcome with
      | type descriptor item providers =>
          -- The id is the first entry, so nothing else has been recorded when it is refused.
          obtain ⟨id, hid, hrefusal⟩ := Option.bind_eq_some_iff.mp hrejection
          rw [Outcome.entries_type, hid]
          change catalog.perform (Entry.recordAll (.wellKnownId descriptor.type id :: _)) = _
          rw [perform_recordAll_cons, hrefusal]
      | interface descriptor =>
          obtain ⟨invoker, hconflict, rfl⟩ := Option.map_eq_some_iff.mp hrejection
          rw [Outcome.invokers, hconflict, perform_throw]
      | provider ty providers => simp [rejection?] at hrejection

/-- An item that is refused leaves every part of the catalog as it was, and one that is not is there
with all its entries. Once all invokers of an interface have been looked at and its proxy is added,
each invoker in turn is taken. -/
theorem insert_whole_or_not_at_all (catalog : Catalog) (outcome : Outcome) :
    (∀ error left, catalog.perform outcome.insert = (.error error, left) → left = catalog) ∧
      (∀ left, catalog.perform outcome.insert = (.ok (), left) →
        left = catalog.addAll outcome.entries) ∧
      ∀ descriptor : InterfaceDescriptor, catalog.conflict? [] descriptor.invokers = none →
        ∀ before invoker after, descriptor.invokers = before ++ invoker :: after →
          ∃ left,
            (catalog.add (.proxy descriptor.proxy)).perform
                (Entry.recordAll (before.map .invoker)) = (.ok (), left) ∧
              left.perform (Entry.record (.invoker invoker)) =
                (.ok true, left.add (.invoker invoker)) := by
  refine ⟨?_, ?_, ?_⟩
  · intro error left hperform
    rw [perform_insert] at hperform
    split at hperform <;> simp_all
  · intro left hperform
    rw [perform_insert] at hperform
    split at hperform <;> simp_all
  · intro descriptor hconflict before invoker after hsplit
    obtain ⟨-, hadmits⟩ := admits_proxy_invokers catalog hconflict
    rw [hsplit, List.map_append, List.map_cons, admits_append] at hadmits
    obtain ⟨hbefore, hinvoker, -⟩ := hadmits
    refine ⟨_, perform_recordAll _ hbefore, ?_⟩
    rw [perform_record, hinvoker]
    rfl

/-- An interface that lists one method under two names. -/
def twofoldListing : InterfaceDescriptor where
  type := ⟨1⟩
  name := "IOrders"
  methods := [⟨⟨1⟩, ⟨7⟩, "Place"⟩, ⟨⟨1⟩, ⟨7⟩, "PlaceAsync"⟩]
  proxyBase := ⟨2⟩
  isExtension := false
  generatedNamespace := "Generated"

/-- An interface with two methods. -/
def plainListing : InterfaceDescriptor :=
  { twofoldListing with methods := [⟨⟨1⟩, ⟨7⟩, "Place"⟩, ⟨⟨1⟩, ⟨8⟩, "Place"⟩] }

theorem conflict?_twofoldListing :
    (empty.conflict? [] twofoldListing.invokers).map (·.method.name) = some "PlaceAsync" := by
  simp [conflict?, twofoldListing, InterfaceDescriptor.invokers, InvokerDescriptor.key,
    MethodDescriptor.key]

theorem conflict?_plainListing : empty.conflict? [] plainListing.invokers = none := by
  simp [conflict?, plainListing, twofoldListing, InterfaceDescriptor.invokers,
    InvokerDescriptor.key, MethodDescriptor.key]

theorem insert_listings :
    ((empty.perform (Outcome.interface twofoldListing).insert).1 =
        .error (.duplicateInvoker "PlaceAsync") ∧
      (empty.perform (Outcome.interface twofoldListing).insert).2 = empty) ∧
    ((empty.perform (Outcome.interface plainListing).insert).1 = .ok () ∧
      (empty.perform (Outcome.interface plainListing).insert).2 =
        empty.addAll (Outcome.interface plainListing).entries) ∧
    empty.conflict? [] plainListing.invokers = none ∧
    ∃ first second left, plainListing.invokers = [first] ++ second :: [] ∧
      (empty.add (.proxy plainListing.proxy)).perform (Entry.recordAll [.invoker first]) =
        (.ok (), left) ∧
      left.perform (Entry.record (.invoker second)) = (.ok true, left.add (.invoker second)) := by
  have hrefused : (empty.perform (Outcome.interface twofoldListing).insert).1 =
      .error (.duplicateInvoker "PlaceAsync") := by
    obtain ⟨invoker, hconflict, hname⟩ := Option.map_eq_some_iff.mp conflict?_twofoldListing
    rw [perform_insert, rejection?, hconflict, ← hname]
    rfl
  have htaken : (empty.perform (Outcome.interface plainListing).insert).1 = .ok () := by
    rw [perform_insert, rejection?, conflict?_plainListing]
    rfl
  obtain ⟨left, hfirst, hsecond⟩ :=
    (insert_whole_or_not_at_all empty (.interface plainListing)).2.2 plainListing
      conflict?_plainListing [_] _ [] rfl
  exact ⟨⟨hrefused, (insert_whole_or_not_at_all empty (.interface twofoldListing)).1 _ _
      (Prod.ext hrefused rfl)⟩,
    ⟨htaken, (insert_whole_or_not_at_all empty (.interface plainListing)).2.1 _
      (Prod.ext htaken rfl)⟩,
    conflict?_plainListing, _, _, left, rfl, hfirst, hsecond⟩

end Catalog

end TypeMetadata
