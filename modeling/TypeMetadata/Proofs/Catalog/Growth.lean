import TypeMetadata.Catalog.Summary
import TypeMetadata.Proofs.Catalog.History

/-!
A catalog only grows. An offer adds one entry at the end of one category or changes nothing, and
what was found before is found ever after.
-/

namespace TypeMetadata

/-- The category that an entry belongs to. An application part belongs to none that keeps an
order. -/
def Entry.category? : Entry → Option Category
  | .serializableType _ => some .serializableTypes
  | .interface _ => some .interfaces
  | .invoker _ => some .invokers
  | .proxy _ => some .proxies
  | .activatableType _ => some .activatableTypes
  | .serializer _ => some .serializers
  | .activator _ => some .activators
  | .copier _ => some .copiers
  | .typeAlias _ _ => some .aliases
  | .wellKnownId _ _ => some .wellKnownIds
  | .applicationPart _ => none

theorem Entry.isSome_row?_iff (entry : Entry) (category : Category) :
    (entry.row? category).isSome = true ↔ entry.category? = some category := by
  cases entry <;> cases category <;> simp [row?, category?]

/-- The number of entries of each category, and of application parts, among some entries. -/
def Summary.ofEntries (entries : List Entry) : Summary where
  serializableTypes := (entries.filterMap (·.row? .serializableTypes)).length
  interfaces := (entries.filterMap (·.row? .interfaces)).length
  invokers := (entries.filterMap (·.row? .invokers)).length
  proxies := (entries.filterMap (·.row? .proxies)).length
  activatableTypes := (entries.filterMap (·.row? .activatableTypes)).length
  providers := (entries.filterMap (·.row? .serializers)).length +
    (entries.filterMap (·.row? .activators)).length +
    (entries.filterMap (·.row? .copiers)).length
  aliases := (entries.filterMap (·.row? .aliases)).length
  wellKnownIds := (entries.filterMap (·.row? .wellKnownIds)).length
  applicationParts := (entries.filterMap Entry.part?).length

namespace Catalog

variable {catalog : Catalog}

/-- The later catalog has an entry more than the earlier one, at the end of its category, and
nothing else. For an application part the answer tells whether it is new. -/
structure Gains (earlier : Catalog) (entry : Entry) (hasGrown : Bool) (later : Catalog) : Prop where
  own : ∀ category, entry.category? = some category → ∃ row, entry.row? category = some row ∧
    later.rows category = earlier.rows category ++ [row]
  others : ∀ category, entry.category? ≠ some category →
    later.rows category = earlier.rows category
  parts_iff : ∀ part, part ∈ later.applicationParts ↔
    part ∈ earlier.applicationParts ∨ entry.part? = some part
  hasGrown_iff : entry.category? = none →
    (hasGrown = true ↔ earlier.applicationParts.size < later.applicationParts.size)

/-- What the earlier catalog holds or finds, the later one still holds in its place or finds. -/
structure Keeps (earlier later : Catalog) : Prop where
  rows_prefix : ∀ category, earlier.rows category <+: later.rows category
  parts : ∀ part, part ∈ earlier.applicationParts → part ∈ later.applicationParts
  hasInvoker : ∀ key, earlier.hasInvoker key = true → later.hasInvoker key = true
  invoker? : ∀ key invoker, earlier.invoker? key = some invoker →
    later.invoker? key = some invoker
  owner : ∀ (id : UInt32) (ty : TypeHandle), earlier.wellKnownIndex[id]? = some ty →
    later.wellKnownIndex[id]? = some ty
  hasWellKnownId : ∀ id, earlier.hasWellKnownId id = true → later.hasWellKnownId id = true

/-! ### One offer -/

theorem size_applicationParts_add (catalog : Catalog) {entry : Entry}
    (hholds : catalog.holds entry = false) :
    (catalog.add entry).applicationParts.size =
      catalog.applicationParts.size + entry.part?.toList.length := by
  cases entry with
  | applicationPart name =>
      rw [holds] at hholds
      change (catalog.applicationParts.insert name).size = _
      rw [Std.ExtTreeSet.size_insert, hholds]
      rfl
  | _ => rfl

theorem add_of_holds {entry : Entry} (hholds : catalog.holds entry = true) :
    catalog.add entry = catalog := by
  cases entry with
  | applicationPart name =>
      have hsame : catalog.applicationParts.insert name = catalog.applicationParts := by
        apply Std.ExtTreeSet.ext_mem
        intro part
        rw [Std.ExtTreeSet.mem_insert, Std.LawfulEqCmp.compare_eq_iff_eq, or_iff_right_of_imp]
        rintro rfl
        exact hholds
      rw [add, hsame]
  | _ => cases hholds

theorem gains_add (catalog : Catalog) (entry : Entry) :
    catalog.Gains entry (!catalog.holds entry) (catalog.add entry) where
  own category hcategory := by
    obtain ⟨row, hrow⟩ :=
      Option.isSome_iff_exists.mp ((entry.isSome_row?_iff category).mpr hcategory)
    refine ⟨row, hrow, ?_⟩
    rw [rows_add, hrow, Option.toList_some]
  others category hcategory := by
    have hrow : entry.row? category = none := by
      rwa [ne_eq, ← entry.isSome_row?_iff, Option.not_isSome_iff_eq_none] at hcategory
    rw [rows_add, hrow, Option.toList_none, List.append_nil]
  parts_iff part := by
    rw [applicationParts_add]
    cases entry.part? with
    | none => simp
    | some name =>
        rw [Option.elim_some, Std.ExtTreeSet.mem_insert, Std.LawfulEqCmp.compare_eq_iff_eq,
          Option.some_inj, or_comm]
  hasGrown_iff hcategory := by
    cases hholds : catalog.holds entry with
    | true => simp [add_of_holds hholds]
    | false =>
        rw [size_applicationParts_add catalog hholds]
        cases entry <;> simp_all [Entry.category?, Entry.part?]

/-- An offer that does not make the catalog grow leaves it as it is. -/
theorem offer_cases (catalog : Catalog) (entry : Entry) :
    ((catalog.perform entry.record).1 = .ok true ∧ catalog.holds entry = false ∧
        catalog.offer entry = catalog.add entry) ∨
      ((catalog.perform entry.record).1 ≠ .ok true ∧ catalog.offer entry = catalog) := by
  cases hrefusal : catalog.refusal? entry with
  | some error =>
      refine .inr ⟨?_, offer_of_refused hrefusal⟩
      rw [perform_record, hrefusal]
      simp
  | none =>
      rw [offer_of_admitted hrefusal, perform_record, hrefusal]
      cases hholds : catalog.holds entry with
      | true => exact .inr ⟨by simp, add_of_holds hholds⟩
      | false => exact .inl ⟨rfl, rfl, rfl⟩

/-! ### A run of offers -/

/-- The entries by which a catalog grows when entries are offered to it, in order. -/
def taken (catalog : Catalog) : List Entry → List Entry
  | [] => []
  | entry :: entries =>
    match (catalog.perform entry.record).1 with
    | .ok true => entry :: (catalog.offer entry).taken entries
    | _ => (catalog.offer entry).taken entries

theorem taken_cons_of_grown {entry : Entry} (hgrown : (catalog.perform entry.record).1 = .ok true)
    (entries : List Entry) :
    catalog.taken (entry :: entries) = entry :: (catalog.offer entry).taken entries := by
  rw [taken, hgrown]

theorem taken_cons_of_not_grown {entry : Entry}
    (hsame : (catalog.perform entry.record).1 ≠ .ok true) (entries : List Entry) :
    catalog.taken (entry :: entries) = (catalog.offer entry).taken entries := by
  rw [taken]
  split
  · contradiction
  · rfl

theorem offerAll_cons (catalog : Catalog) (entry : Entry) (entries : List Entry) :
    catalog.offerAll (entry :: entries) = (catalog.offer entry).offerAll entries :=
  rfl

theorem rows_offerAll (catalog : Catalog) (entries : List Entry) (category : Category) :
    (catalog.offerAll entries).rows category =
      catalog.rows category ++ (catalog.taken entries).filterMap (·.row? category) := by
  induction entries generalizing catalog with
  | nil => exact (List.append_nil _).symm
  | cons entry entries ih =>
      rw [offerAll_cons, ih]
      rcases catalog.offer_cases entry with ⟨hgrown, -, hoffer⟩ | ⟨hsame, hoffer⟩
      · rw [taken_cons_of_grown hgrown, hoffer, rows_add, List.append_assoc, List.filterMap_cons]
        cases entry.row? category <;> rfl
      · rw [taken_cons_of_not_grown hsame, hoffer]

theorem size_applicationParts_offerAll (catalog : Catalog) (entries : List Entry) :
    (catalog.offerAll entries).applicationParts.size =
      catalog.applicationParts.size + ((catalog.taken entries).filterMap Entry.part?).length := by
  induction entries generalizing catalog with
  | nil => rfl
  | cons entry entries ih =>
      rw [offerAll_cons, ih]
      rcases catalog.offer_cases entry with ⟨hgrown, hnew, hoffer⟩ | ⟨hsame, hoffer⟩
      · rw [taken_cons_of_grown hgrown, hoffer, size_applicationParts_add catalog hnew,
          List.filterMap_cons]
        cases entry.part? with
        | none => rfl
        | some name =>
            simp only [Option.toList_some, List.length_cons, List.length_nil]
            omega
      · rw [taken_cons_of_not_grown hsame, hoffer]

theorem mem_applicationParts_offerAll {part : String} (hpart : part ∈ catalog.applicationParts)
    (entries : List Entry) : part ∈ (catalog.offerAll entries).applicationParts := by
  induction entries generalizing catalog with
  | nil => exact hpart
  | cons entry entries ih =>
      rw [offerAll_cons]
      apply ih
      rcases catalog.offer_cases entry with ⟨-, -, hoffer⟩ | ⟨-, hoffer⟩
      · rw [hoffer]
        exact ((catalog.gains_add entry).parts_iff part).mpr (.inl hpart)
      · rwa [hoffer]

theorem Indexed.keeps_offerAll (hindexed : catalog.Indexed) (entries : List Entry) :
    catalog.Keeps (catalog.offerAll entries) := by
  have hinvoker : ∀ key invoker, catalog.invoker? key = some invoker →
      (catalog.offerAll entries).invoker? key = some invoker := by
    intro key invoker hfound
    rw [hindexed.invoker?_offerAll, hfound, Option.some_or]
  have howner : ∀ (id : UInt32) (ty : TypeHandle), catalog.wellKnownIndex[id]? = some ty →
      (catalog.offerAll entries).wellKnownIndex[id]? = some ty := by
    intro id ty hfound
    rw [getElem?_wellKnownIndex_offerAll, hfound, Option.some_or]
  refine ⟨?_, fun part hpart => mem_applicationParts_offerAll hpart entries, ?_, hinvoker, howner,
    ?_⟩
  · intro category
    rw [rows_offerAll]
    exact List.prefix_append _ _
  · intro key hpresent
    rw [← hindexed.isSome_invoker?, Option.isSome_iff_exists] at hpresent
    obtain ⟨invoker, hfound⟩ := hpresent
    rw [← (hindexed.offerAll entries).isSome_invoker?, hinvoker key invoker hfound]
    rfl
  · intro id hpresent
    rw [hasWellKnownId, Std.ExtHashMap.contains_eq_isSome_getElem?,
      Option.isSome_iff_exists] at hpresent
    obtain ⟨ty, hfound⟩ := hpresent
    rw [hasWellKnownId, Std.ExtHashMap.contains_eq_isSome_getElem?, howner id ty hfound]
    rfl

theorem summary_offerAll (entries : List Entry) :
    (empty.offerAll entries).summary = .ofEntries (empty.taken entries) := by
  have hlength : ∀ category, ((empty.offerAll entries).rows category).length =
      ((empty.taken entries).filterMap (·.row? category)).length := by
    intro category
    rw [rows_offerAll, rows_empty, List.nil_append]
  have hparts : (empty.offerAll entries).applicationParts.size =
      ((empty.taken entries).filterMap Entry.part?).length := by
    rw [size_applicationParts_offerAll]
    exact Nat.zero_add _
  simp only [Summary.ofEntries, ← hlength, ← hparts, rows, Array.length_toList]
  rfl

/-- A refused entry leaves the catalog as it was, and a taken one is the only thing that is new. So
however a run goes on, nothing is taken back, and the summary counts the entries by which the
catalog has grown. -/
theorem grows_entry_by_entry (history : List Entry) (entry : Entry) (further : List Entry) :
    (match (empty.offerAll history).perform entry.record with
      | (.error _, left) => left = empty.offerAll history
      | (.ok hasGrown, left) => (empty.offerAll history).Gains entry hasGrown left ∧
          (empty.offerAll history).Keeps left) ∧
      (empty.offerAll history).Keeps (empty.offerAll (history ++ further)) ∧
      (empty.offerAll history).summary = .ofEntries (empty.taken history) := by
  have hindexed : (empty.offerAll history).Indexed := indexed_empty.offerAll history
  refine ⟨?_, ?_, summary_offerAll history⟩
  · rw [perform_record]
    cases hrefusal : (empty.offerAll history).refusal? entry with
    | some error => rfl
    | none =>
        refine ⟨gains_add _ entry, ?_⟩
        rw [← offer_of_admitted hrefusal]
        exact hindexed.keeps_offerAll [entry]
  · rw [show empty.offerAll (history ++ further) = (empty.offerAll history).offerAll further from
      List.foldl_append]
    exact hindexed.keeps_offerAll further

end Catalog

end TypeMetadata
