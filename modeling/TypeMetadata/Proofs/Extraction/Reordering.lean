import Mathlib.Data.List.Nodup
import TypeMetadata.Proofs.Extraction.Tally

/-!
Runs over the same items in another order. Items only get in each other's way over well-known ids
and over methods. Where no two of them ask for the same, each item fares alike in every order, and
the order of the items decides nothing but the order of the rows.
-/

namespace TypeMetadata

theorem rel_of_pairwise {α : Type} {R : α → α → Prop} {list : List α} (hlist : list.Pairwise R)
    {first second : Nat} (hlt : first < second) {a b : α} (ha : list[first]? = some a)
    (hb : list[second]? = some b) : R a b := by
  obtain ⟨hfirst, rfl⟩ := List.getElem?_eq_some_iff.mp ha
  obtain ⟨hsecond, rfl⟩ := List.getElem?_eq_some_iff.mp hb
  exact List.pairwise_iff_getElem.mp hlist first second hfirst hsecond hlt

theorem keepAt_eq_filter {α : Type} {keeps : Nat → Bool} {p : α → Bool} {list : List α}
    (hkeeps : ∀ (position : Nat) (a : α), list[position]? = some a → keeps position = p a) :
    keepAt keeps list = list.filter p := by
  have hslots : list.zipIdx.filter (fun slot => keeps slot.2) =
      list.zipIdx.filter (p ∘ Prod.fst) := by
    apply List.filter_congr
    intro slot hslot
    exact hkeeps slot.2 slot.1 (List.mem_zipIdx_iff_getElem?.mp hslot)
  rw [keepAt, hslots, ← List.filter_map, List.zipIdx_map_fst]

namespace Item

def wellKnownId? : Item → Option UInt32
  | .type item => item.wellKnownId
  | .interface _ => none
  | .provider _ => none

def methodKeys : Item → List MethodKey
  | .type _ => []
  | .interface item => item.methods.map MethodDescriptor.key
  | .provider _ => []

variable {items : List Item} {position : Nat} {item : Item}

/-- No item asks for anything that it or another one has asked for. -/
theorem not_clashesBy (hids : (items.filterMap Item.wellKnownId?).Nodup)
    (hkeys : (items.flatMap Item.methodKeys).Nodup) (hitem : items[position]? = some item)
    (failures : Array Failure) (refusal : CatalogError) :
    ¬item.ClashesBy (AcceptedBefore failures items position) refusal := by
  cases item with
  | type item =>
      rintro ⟨id, other, hid, ⟨index, hlt, hother, -⟩, hsame, -⟩
      rw [List.Nodup, List.pairwise_filterMap] at hids
      exact rel_of_pairwise hids hlt hother hitem id hsame id hid rfl
  | interface item =>
      rintro ⟨before, method, after, hmethods, htaken, -, -⟩
      obtain ⟨hown, hothers⟩ := List.nodup_flatMap.mp hkeys
      rcases htaken with
        ⟨other, hother, hkey⟩ | ⟨earlier, ⟨index, hlt, hearlier, -⟩, other, hother, hkey⟩
      · have hnodup := hown _ (List.mem_of_getElem? hitem)
        rw [methodKeys, hmethods] at hnodup
        exact MethodDescriptor.key_ne_of_nodup hnodup hother hkey
      · have hdisjoint := rel_of_pairwise hothers hlt hearlier hitem
        refine hdisjoint (List.mem_map_of_mem hother) ?_
        rw [hkey]
        apply List.mem_map_of_mem
        rw [hmethods]
        exact List.mem_append_right _ List.mem_cons_self
  | provider ty => exact id

end Item

namespace Pass

variable {program : Program} {config : Config} {pass : Pass} {token : CancelToken}
  {items shuffled : List Item} {report : Report}

theorem advance_isOk_iff (items : List Item) (start : Nat) (progress : Progress) :
    (∃ last, pass.advance .fresh progress (items.zipIdx start) = .ok last) ↔
      ∀ item ∈ items, ∃ extracted, pass.extract item = .ok extracted := by
  induction items generalizing start progress with
  | nil => exact ⟨fun _ => by simp, fun _ => ⟨progress, rfl⟩⟩
  | cons item items ih =>
      rw [List.zipIdx_cons, List.forall_mem_cons]
      simp only [advance_fresh_cons_eq_ok]
      constructor
      · rintro ⟨last, extracted, hextract, hlast⟩
        exact ⟨⟨extracted, hextract⟩, (ih _ _).mp ⟨last, hlast⟩⟩
      · rintro ⟨⟨extracted, hextract⟩, hrest⟩
        obtain ⟨last, hlast⟩ := (ih (start + 1) (progress.commit start extracted)).mpr hrest
        exact ⟨last, extracted, hextract, hlast⟩

/-- A run has an answer exactly if each item that is taken has one. -/
theorem run_isOk_iff (pass : Pass) (items : List Item) :
    (∃ report, pass.run items = .ok report) ↔
      ∀ item ∈ items.take (pass.token.allowance items.length),
        ∃ extracted, pass.extract item = .ok extracted := by
  rw [← advance_isOk_iff _ 0 pass.begin, run, advance_eq_take, List.length_zipIdx, take_zipIdx]
  simp only [bind_eq_ok, pure_eq_ok]
  constructor
  · rintro ⟨report, last, hlast, -⟩
    exact ⟨last, hlast⟩
  · rintro ⟨last, hlast⟩
    exact ⟨_, last, hlast, rfl⟩

/-- How a run goes over items that do not get in each other's way, said item by item. -/
structure Separate (pass : Pass) (items : List Item) (report : Report) : Prop where
  failure_iff : ∀ (index : Nat) (item : Item) (error : ItemError), items[index]? = some item →
    ((⟨index, error⟩ : Failure) ∈ report.failures ↔
      ∃ complaint, error = .descriptor complaint ∧ pass.extract item = .ok (.error complaint))
  rows_eq : ∀ category, report.catalog.rows category =
    (items.filterMap pass.outcome?).flatMap (·.rows category)
  applicationParts_eq : report.catalog.applicationParts = pass.catalog.applicationParts

/-- Of items that do not get in each other's way, a run accepts those that have a descriptor. -/
theorem Tallied.keepAt_accepts_eq {progress : Progress} (htallied : pass.Tallied items progress)
    (hanswered : ∀ item ∈ items, ∃ extracted, pass.extract item = .ok extracted)
    (hcatalog : ∀ index refusal, (⟨index, .catalog refusal⟩ : Failure) ∉ progress.failures) :
    keepAt (accepts progress.failures) items =
      items.filter fun item => (pass.outcome? item).isSome := by
  apply keepAt_eq_filter
  intro position item hitem
  obtain ⟨extracted, hextract⟩ := hanswered item (List.mem_of_getElem? hitem)
  cases extracted with
  | ok outcome =>
      rw [outcome?_eq_some_iff.mpr hextract, Option.isSome_some, accepts_iff]
      rintro ⟨index, complaint | refusal⟩ hfailure rfl
      · rw [htallied.complaint_iff _ item complaint hitem, hextract] at hfailure
        cases hfailure
      · exact hcatalog _ refusal hfailure
  | error complaint =>
      rw [outcome?, hextract]
      refine accepts_eq_false_iff.mpr ⟨⟨position, .descriptor complaint⟩, ?_, rfl⟩
      exact (htallied.complaint_iff position item complaint hitem).mpr hextract

theorem separate_of_run (hstart : Pass.start program config = .ok pass)
    (hlasts : token.Lasts items.length) (hids : (items.filterMap Item.wellKnownId?).Nodup)
    (hkeys : (items.flatMap Item.methodKeys).Nodup)
    (hrun : (pass.withToken token).run items = .ok report) :
    (pass.withToken token).Separate items report := by
  have hjudged := judged_of_run hstart hlasts hrun
  have hanswered := (run_isOk_iff (pass.withToken token) items).mp ⟨report, hrun⟩
  obtain ⟨-, rfl, hcatalog, -, -⟩ := start_eq_ok hstart
  obtain ⟨progress, rfl, htallied⟩ := tallied_of_run hrun
  have hwhole : (pass.withToken token).token.Lasts items.length := hlasts
  rw [hwhole.take_eq] at hanswered htallied
  have hrefusal : ∀ index refusal,
      (⟨index, .catalog refusal⟩ : Failure) ∉ progress.failures := by
    intro index refusal hfailure
    have hitem := List.getElem?_eq_getElem (hjudged.lt_length _ hfailure)
    exact Item.not_clashesBy hids hkeys hitem _ _
      ((hjudged.catalog_iff index _ hitem refusal).mp hfailure).2
  refine ⟨?_, ?_, htallied.applicationParts_eq⟩
  · intro index item error hitem
    cases error with
    | descriptor complaint =>
        simp only [ItemError.descriptor.injEq, exists_eq_left']
        exact htallied.complaint_iff index item complaint hitem
    | catalog refusal => exact iff_of_false (hrefusal index refusal) (by simp)
  · intro category
    change progress.catalog.rows category = _
    rw [htallied.rows_eq, htallied.keepAt_accepts_eq hanswered hrefusal, List.filterMap_filter]
    change pass.catalog.rows category ++ _ = _
    rw [hcatalog, Catalog.rows_ofParts, List.nil_append]
    apply congrArg (List.flatMap _)
    apply List.filterMap_congr
    intro item _
    cases (pass.withToken token).outcome? item <;> rfl

/-- Where no two types ask for one id and no method is listed twice, the order of the items decides
only the order of the rows: each item fares alike. -/
theorem report_of_shuffled (hstart : Pass.start program config = .ok pass)
    (hlasts : token.Lasts items.length) (hids : (items.filterMap Item.wellKnownId?).Nodup)
    (hkeys : (items.flatMap Item.methodKeys).Nodup)
    (hyields : (pass.withToken token).Yields items report) (hshuffled : shuffled.Perm items) :
    ∃ other, (pass.withToken token).run shuffled = .ok other ∧
      (∀ (place position : Nat) (item : Item) (error : ItemError),
        shuffled[place]? = some item → items[position]? = some item →
          ((⟨place, error⟩ : Failure) ∈ other.failures ↔
            (⟨position, error⟩ : Failure) ∈ report.failures)) ∧
      (∀ category, (other.catalog.rows category).Perm (report.catalog.rows category)) ∧
      other.catalog.applicationParts = report.catalog.applicationParts := by
  have hrun := yields_iff.mp hyields
  have hwhole : (pass.withToken token).token.Lasts items.length := hlasts
  have hanswered := (run_isOk_iff (pass.withToken token) items).mp ⟨report, hrun⟩
  rw [hwhole.take_eq] at hanswered
  obtain ⟨other, hother⟩ : ∃ other, (pass.withToken token).run shuffled = .ok other := by
    rw [run_isOk_iff]
    intro item hitem
    exact hanswered item (hshuffled.mem_iff.mp (List.mem_of_mem_take hitem))
  have hseparate := separate_of_run hstart hlasts hids hkeys hrun
  have hlikewise := separate_of_run hstart (hshuffled.length_eq ▸ hlasts) ((hshuffled.filterMap _).nodup_iff.mpr hids)
    ((hshuffled.flatMap_right _).nodup_iff.mpr hkeys) hother
  refine ⟨other, hother, ?_, ?_, ?_⟩
  · intro place position item error hplace hposition
    rw [hlikewise.failure_iff place item error hplace,
      hseparate.failure_iff position item error hposition]
  · intro category
    rw [hlikewise.rows_eq, hseparate.rows_eq]
    exact (hshuffled.filterMap _).flatMap_right _
  · rw [hlikewise.applicationParts_eq, hseparate.applicationParts_eq]

end Pass

namespace Sample

/-- The first item has no proxy base, and no two ask for the same. -/
def separateItems : List Item := [
  .interface ⟨⟨3⟩, "IOrders", [], ⟨3⟩, false⟩,
  .type ⟨⟨2⟩, [], none, some 7, false⟩,
  .interface orders,
  .type ⟨⟨3⟩, [], some "orders", some 8, true⟩]

end Sample

theorem Pass.report_of_separateItems_reversed :
    ∃ report other, (Sample.pass.withToken .fresh).Yields Sample.separateItems report ∧
      (Sample.pass.withToken .fresh).run Sample.separateItems.reverse = .ok other ∧
      (∃ error, (⟨0, error⟩ : Failure) ∈ report.failures ∧
        (⟨3, error⟩ : Failure) ∈ other.failures) ∧
      (other.catalog.rows .wellKnownIds).Perm (report.catalog.rows .wellKnownIds) ∧
      other.catalog.applicationParts = report.catalog.applicationParts := by
  obtain ⟨report, hrun⟩ : ∃ report, Sample.pass.run Sample.separateItems = .ok report := ⟨_, rfl⟩
  have hlasts : CancelToken.fresh.Lasts Sample.separateItems.length := CancelToken.lasts_fresh _
  obtain ⟨other, hother, hfailures, hrows, hparts⟩ :=
    report_of_shuffled Sample.start_program hlasts (by decide) (by decide) (.alone hrun)
      Sample.separateItems.reverse_perm
  have hitem : Sample.separateItems[0]? = some (.interface ⟨⟨3⟩, "IOrders", [], ⟨3⟩, false⟩) :=
    rfl
  obtain ⟨complaint, hfailure⟩ :=
    ((judged_of_run Sample.start_program hlasts hrun).descriptor_iff 0 _ hitem).mpr
      Sample.not_hasEntryPoint_orders
  exact ⟨report, other, .alone hrun, hother,
    ⟨_, hfailure, (hfailures 3 0 _ _ rfl hitem).mpr hfailure⟩, hrows .wellKnownIds, hparts⟩

end TypeMetadata
