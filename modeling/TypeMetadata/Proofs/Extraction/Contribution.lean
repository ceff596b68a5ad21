import Mathlib.Data.List.Dedup
import Mathlib.Data.List.Nodup
import TypeMetadata.Proofs.Extraction.Tally

/-!
What a run puts into each category, said about its items. The catalog holds what the accepted items
contribute, in their order, and nothing else.
-/

namespace TypeMetadata

variable {program : Program} {runtime : RuntimeTypes}

def TypeItem.descriptor? (program : Program) (runtime : RuntimeTypes) (item : TypeItem) :
    Option TypeDescriptor :=
  obtained? (TypeDescriptor.build program runtime item.type item.members)

def InterfaceItem.descriptor? (program : Program) (runtime : RuntimeTypes) (item : InterfaceItem) :
    Option InterfaceDescriptor :=
  obtained? (InterfaceDescriptor.build program runtime item.type item.name item.methods
    item.proxyBase item.isExtension)

/-- Whether the declaration of a type carries a marker. -/
def Program.carries (program : Program) (marker : Capability) (ty : TypeHandle) : Bool :=
  match program.decl ty with
  | .ok decl => decl.hasCapability marker
  | .error _ => false

theorem Program.filter_carries {ty : TypeHandle} {decl : TypeDecl}
    (hdecl : program.decl ty = .ok decl) (marker : Capability) :
    [ty].filter (program.carries marker) = if decl.hasCapability marker then [ty] else [] := by
  have hcarries : program.carries marker ty = decl.hasCapability marker := by
    rw [carries, hdecl]
  rw [List.filter_singleton, hcarries]
  cases decl.hasCapability marker <;> rfl

namespace Item

def type? : Item → Option TypeItem
  | .type item => some item
  | .interface _ => none
  | .provider _ => none

def interface? : Item → Option InterfaceItem
  | .type _ => none
  | .interface item => some item
  | .provider _ => none

/-- The type that an item may offer as a provider. -/
def providing? : Item → Option TypeHandle
  | .type item => some item.type
  | .interface _ => none
  | .provider ty => some ty

theorem outcome_of_type {item : TypeItem} {outcome : Outcome}
    (hextract : (Item.type item).extract program runtime = .ok (.ok outcome)) :
    ∃ descriptor decl, item.descriptor? program runtime = some descriptor ∧
      program.decl item.type = .ok decl ∧ descriptor.type = item.type ∧
      outcome = .type descriptor item (.ofDecl decl) := by
  rcases extract_type hextract with
    ⟨-, _, heq⟩ | ⟨-, descriptor, decl, hbuild, hdecl, htype, heq⟩
  · cases heq
  · exact ⟨descriptor, decl, obtained?_eq_some_iff.mpr hbuild, hdecl, htype, Except.ok.inj heq⟩

theorem outcome_of_interface {item : InterfaceItem} {outcome : Outcome}
    (hextract : (Item.interface item).extract program runtime = .ok (.ok outcome)) :
    ∃ descriptor, item.descriptor? program runtime = some descriptor ∧
      outcome = .interface descriptor := by
  simp only [extract, bind_eq_ok, pure_eq_ok] at hextract
  obtain ⟨built, hbuilt, heq⟩ := hextract
  cases built with
  | error error => cases heq
  | ok descriptor =>
      exact ⟨descriptor, obtained?_eq_some_iff.mpr hbuilt, (Except.ok.inj heq).symm⟩

end Item

theorem InterfaceItem.eq_of_descriptor? {item : InterfaceItem} {descriptor : InterfaceDescriptor}
    (hdescriptor : item.descriptor? program runtime = some descriptor) :
    ∃ scope, program.scopeName item.type = .ok scope ∧
      descriptor = ⟨item.type, item.name, item.methods, item.proxyBase, item.isExtension,
        runtime.generatedNamespace scope⟩ := by
  rcases InterfaceDescriptor.build_eq_ok (obtained?_eq_some_iff.mp hdescriptor) with
    ⟨_, -, heq⟩ | ⟨scope, -, hscope, heq⟩
  · cases heq
  · exact ⟨scope, hscope, Except.ok.inj heq⟩

theorem InterfaceItem.methods_of_descriptor? {item : InterfaceItem}
    {descriptor : InterfaceDescriptor}
    (hdescriptor : item.descriptor? program runtime = some descriptor) :
    descriptor.methods = item.methods := by
  obtain ⟨_, -, rfl⟩ := eq_of_descriptor? hdescriptor
  rfl

/-- What some items contribute to each category, in their order. -/
structure Contributions (program : Program) (runtime : RuntimeTypes) (items : List Item)
    (rows : (category : Category) → List category.Row) : Prop where
  serializableTypes : (rows .serializableTypes).map some =
    (items.filterMap Item.type?).map (TypeItem.descriptor? program runtime)
  activatableTypes : (rows .activatableTypes).map some =
    ((items.filterMap Item.type?).filter TypeItem.isActivatable).map
      (TypeItem.descriptor? program runtime)
  aliases : rows .aliases = (items.filterMap Item.type?).filterMap fun item =>
    item.alternateName.map (item.type, ·)
  wellKnownIds : rows .wellKnownIds = (items.filterMap Item.type?).filterMap fun item =>
    item.wellKnownId.map (item.type, ·)
  interfaces : (rows .interfaces).map some =
    (items.filterMap Item.interface?).map (InterfaceItem.descriptor? program runtime)
  proxies : rows .proxies = (rows .interfaces).map InterfaceDescriptor.proxy
  invokers : rows .invokers = (rows .interfaces).flatMap InterfaceDescriptor.invokers
  serializers : rows .serializers =
    (items.filterMap Item.providing?).filter (program.carries .registerSerializer)
  activators : rows .activators =
    (items.filterMap Item.providing?).filter (program.carries .registerActivator)
  copiers : rows .copiers =
    (items.filterMap Item.providing?).filter (program.carries .registerCopier)

namespace Contributions

theorem nil : Contributions program runtime [] fun _ => [] := by
  constructor <;> rfl

theorem append {first second : List Item}
    {rows others : (category : Category) → List category.Row}
    (hfirst : Contributions program runtime first rows)
    (hsecond : Contributions program runtime second others) :
    Contributions program runtime (first ++ second) fun category =>
      rows category ++ others category where
  serializableTypes := by
    rw [List.map_append, hfirst.serializableTypes, hsecond.serializableTypes,
      List.filterMap_append, List.map_append]
  activatableTypes := by
    rw [List.map_append, hfirst.activatableTypes, hsecond.activatableTypes,
      List.filterMap_append, List.filter_append, List.map_append]
  aliases := by
    rw [hfirst.aliases, hsecond.aliases, List.filterMap_append, List.filterMap_append]
  wellKnownIds := by
    rw [hfirst.wellKnownIds, hsecond.wellKnownIds, List.filterMap_append, List.filterMap_append]
  interfaces := by
    rw [List.map_append, hfirst.interfaces, hsecond.interfaces, List.filterMap_append,
      List.map_append]
  proxies := by
    rw [hfirst.proxies, hsecond.proxies, List.map_append]
  invokers := by
    rw [hfirst.invokers, hsecond.invokers, List.flatMap_append]
  serializers := by
    rw [hfirst.serializers, hsecond.serializers, List.filterMap_append, List.filter_append]
  activators := by
    rw [hfirst.activators, hsecond.activators, List.filterMap_append, List.filter_append]
  copiers := by
    rw [hfirst.copiers, hsecond.copiers, List.filterMap_append, List.filter_append]

theorem ofType {item : TypeItem} {outcome : Outcome}
    (hextract : (Item.type item).extract program runtime = .ok (.ok outcome)) :
    Contributions program runtime [.type item] outcome.rows := by
  obtain ⟨descriptor, decl, hdescriptor, hdecl, htype, rfl⟩ := Item.outcome_of_type hextract
  rw [← htype] at hdecl
  have hproviding : [Item.type item].filterMap Item.providing? = [descriptor.type] := by
    rw [htype]
    rfl
  constructor
  case serializableTypes => simp [Outcome.rows, Item.type?, hdescriptor]
  case activatableTypes =>
    cases hactivatable : item.isActivatable <;>
      simp [Outcome.rows, Item.type?, hdescriptor, hactivatable]
  case aliases =>
    cases hname : item.alternateName <;> simp [Outcome.rows, Item.type?, htype, hname]
  case wellKnownIds =>
    cases hid : item.wellKnownId <;> simp [Outcome.rows, Item.type?, htype, hid]
  case serializers =>
    rw [hproviding, Program.filter_carries hdecl]
    rfl
  case activators =>
    rw [hproviding, Program.filter_carries hdecl]
    rfl
  case copiers =>
    rw [hproviding, Program.filter_carries hdecl]
    rfl
  -- A type adds to no other category.
  all_goals rfl

theorem ofInterface {item : InterfaceItem} {outcome : Outcome}
    (hextract : (Item.interface item).extract program runtime = .ok (.ok outcome)) :
    Contributions program runtime [.interface item] outcome.rows := by
  obtain ⟨descriptor, hdescriptor, rfl⟩ := Item.outcome_of_interface hextract
  constructor
  case interfaces => simp [Outcome.rows, Item.interface?, hdescriptor]
  case invokers => simp [Outcome.rows]
  all_goals rfl

theorem ofProvider {ty : TypeHandle} {outcome : Outcome}
    (hextract : (Item.provider ty).extract program runtime = .ok (.ok outcome)) :
    Contributions program runtime [.provider ty] outcome.rows := by
  obtain ⟨decl, hdecl, heq⟩ := Item.extract_provider hextract
  obtain rfl := Except.ok.inj heq
  constructor
  case serializers => exact (Program.filter_carries hdecl .registerSerializer).symm
  case activators => exact (Program.filter_carries hdecl .registerActivator).symm
  case copiers => exact (Program.filter_carries hdecl .registerCopier).symm
  all_goals rfl

theorem ofItem {item : Item} {outcome : Outcome}
    (hextract : item.extract program runtime = .ok (.ok outcome)) :
    Contributions program runtime [item] outcome.rows := by
  cases item with
  | type item => exact ofType hextract
  | interface item => exact ofInterface hextract
  | provider ty => exact ofProvider hextract

theorem ofItems {pass : Pass} {items : List Item}
    (hdescribed : ∀ item ∈ items, (pass.outcome? item).isSome) :
    Contributions pass.program pass.runtime items fun category =>
      (items.filterMap pass.outcome?).flatMap (·.rows category) := by
  induction items with
  | nil => exact nil
  | cons item items ih =>
      rw [List.forall_mem_cons] at hdescribed
      obtain ⟨outcome, houtcome⟩ := Option.isSome_iff_exists.mp hdescribed.1
      have hhead := ofItem (Pass.outcome?_eq_some_iff.mp houtcome)
      simpa only [List.filterMap_cons, houtcome, List.flatMap_cons, List.singleton_append] using
        hhead.append (ih hdescribed.2)

end Contributions

/-! ### Counts -/

/-- The number of entries of each category that some items and application parts come to. -/
def Summary.ofItems (program : Program) (parts : List String) (items : List Item) : Summary where
  serializableTypes := (items.filterMap Item.type?).length
  interfaces := (items.filterMap Item.interface?).length
  invokers := ((items.filterMap Item.interface?).flatMap InterfaceItem.methods).length
  proxies := (items.filterMap Item.interface?).length
  activatableTypes := (items.filterMap Item.type?).countP TypeItem.isActivatable
  providers := (items.filterMap Item.providing?).countP (program.carries .registerSerializer) +
    (items.filterMap Item.providing?).countP (program.carries .registerActivator) +
    (items.filterMap Item.providing?).countP (program.carries .registerCopier)
  aliases := (items.filterMap Item.type?).countP (·.alternateName.isSome)
  wellKnownIds := (items.filterMap Item.type?).countP (·.wellKnownId.isSome)
  applicationParts := parts.dedup.length

theorem size_applicationParts {catalog : Catalog} {names : List String}
    (hparts : ∀ part, part ∈ catalog.applicationParts ↔ part ∈ names) :
    catalog.applicationParts.size = names.dedup.length := by
  rw [← Std.ExtTreeSet.length_toList]
  apply List.Perm.length_eq
  rw [List.perm_ext_iff_of_nodup _ names.nodup_dedup]
  · intro part
    rw [Std.ExtTreeSet.mem_toList, hparts, List.mem_dedup]
  · refine Std.ExtTreeSet.distinct_toList.imp ?_
    intro part other hdistinct
    simpa using hdistinct

theorem map_eq_map_of_some {α β γ : Type} {f : β → Option α} {g : α → γ} {h : β → γ}
    (hf : ∀ a b, f b = some a → g a = h b) {as : List α} {bs : List β}
    (heq : as.map some = bs.map f) : as.map g = bs.map h := by
  induction as generalizing bs with
  | nil =>
      cases bs with
      | nil => rfl
      | cons b bs => cases heq
  | cons a as ih =>
      cases bs with
      | nil => cases heq
      | cons b bs =>
          rw [List.map_cons, List.map_cons, List.cons.injEq] at heq
          rw [List.map_cons, List.map_cons, hf a b heq.1.symm, ih heq.2]

namespace Contributions

variable {catalog : Catalog} {items : List Item}

theorem length_invokers (hcontributions : Contributions program runtime items catalog.rows) :
    (catalog.rows .invokers).length =
      ((items.filterMap Item.interface?).flatMap InterfaceItem.methods).length := by
  rw [hcontributions.invokers, List.length_flatMap, List.length_flatMap]
  apply congrArg
  refine map_eq_map_of_some ?_ hcontributions.interfaces
  intro descriptor item hdescriptor
  rw [← InterfaceItem.methods_of_descriptor? hdescriptor, ← descriptor.map_method_invokers,
    List.length_map]

theorem length_interfaces (hcontributions : Contributions program runtime items catalog.rows) :
    (catalog.rows .interfaces).length = (items.filterMap Item.interface?).length := by
  simpa using congrArg List.length hcontributions.interfaces

theorem summary_eq (hcontributions : Contributions program runtime items catalog.rows)
    {names : List String} (hparts : ∀ part, part ∈ catalog.applicationParts ↔ part ∈ names) :
    catalog.summary = .ofItems program names items := by
  have htypes := congrArg List.length hcontributions.serializableTypes
  have hactivatable := congrArg List.length hcontributions.activatableTypes
  rw [List.length_map, List.length_map] at htypes hactivatable
  have hproxies := congrArg List.length hcontributions.proxies
  rw [List.length_map, hcontributions.length_interfaces] at hproxies
  have haliases := congrArg List.length hcontributions.aliases
  have hids := congrArg List.length hcontributions.wellKnownIds
  rw [List.length_filterMap_eq_countP] at haliases hids
  have hserializers := congrArg List.length hcontributions.serializers
  have hactivators := congrArg List.length hcontributions.activators
  have hcopiers := congrArg List.length hcontributions.copiers
  rw [← List.countP_eq_length_filter] at hserializers hactivators hcopiers hactivatable
  have hinterfaces := hcontributions.length_interfaces
  have hinvokers := hcontributions.length_invokers
  simp only [Catalog.rows, Array.length_toList, Option.isSome_map] at *
  rw [Catalog.summary, Summary.ofItems, htypes, hinterfaces, hinvokers, hproxies, hactivatable,
    hserializers, hactivators, hcopiers, haliases, hids, size_applicationParts hparts]

end Contributions

namespace Pass

variable {pass : Pass} {config : Config} {token : CancelToken} {items : List Item} {report : Report}

/-- Some of the items of a run, in their order, make up its catalog, whether the run was stopped or
not. -/
theorem contributions_of_run (hstart : Pass.start program config = .ok pass) (token : CancelToken)
    (hrun : (pass.withToken token).run items = .ok report) :
    ∃ kept : List Item, kept.Sublist items ∧
      Contributions program pass.runtime kept report.catalog.rows := by
  obtain ⟨kept, hkept, hdescribed, hrows⟩ := rows_of_run hstart token hrun
  obtain ⟨-, rfl, -, -, -⟩ := start_eq_ok hstart
  have heq : report.catalog.rows = fun category =>
      (kept.filterMap pass.outcome?).flatMap (·.rows category) := funext hrows
  rw [heq]
  exact ⟨kept, hkept, Contributions.ofItems hdescribed⟩

/-- Each item of a run that is not stopped is accounted for once: either it is among the failures,
or the catalog holds what it contributes. -/
theorem every_item_accounted_for (hstart : Pass.start program config = .ok pass)
    (hlasts : token.Lasts items.length) (hyields : (pass.withToken token).Yields items report) :
    report.processed = items.length ∧ report.total = items.length ∧
      (∀ failure ∈ report.failures, failure.index < items.length) ∧
      (report.failures.toList.map Failure.index).Pairwise (· < ·) ∧
      (keepAt (accepts report.failures) items).length + report.failures.size = items.length ∧
      Contributions program pass.runtime (keepAt (accepts report.failures) items)
        report.catalog.rows ∧
      (∀ part, part ∈ report.catalog.applicationParts ↔ part ∈ config.applicationParts) ∧
      report.catalog.summary =
        .ofItems program config.applicationParts (keepAt (accepts report.failures) items) := by
  have hrun := yields_iff.mp hyields
  have hjudged := judged_of_run hstart hlasts hrun
  obtain ⟨-, rfl, hcatalog, -, -⟩ := start_eq_ok hstart
  obtain ⟨progress, rfl, htallied⟩ := tallied_of_run hrun
  have hwhole : (pass.withToken token).token.Lasts items.length := hlasts
  rw [hwhole.take_eq] at htallied
  have hcontributions : Contributions pass.program pass.runtime
      (keepAt (accepts progress.failures) items) progress.catalog.rows := by
    have hrows : progress.catalog.rows = fun category =>
        ((keepAt (accepts progress.failures) items).filterMap
          (pass.withToken token).outcome?).flatMap (·.rows category) := by
      funext category
      rw [htallied.rows_eq]
      change pass.catalog.rows category ++ _ = _
      rw [hcatalog, Catalog.rows_ofParts, List.nil_append]
    rw [hrows]
    exact Contributions.ofItems htallied.described
  have hparts : ∀ part, part ∈ progress.catalog.applicationParts ↔
      part ∈ config.applicationParts := by
    intro part
    rw [htallied.applicationParts_eq]
    change part ∈ pass.catalog.applicationParts ↔ _
    rw [hcatalog, Catalog.mem_applicationParts_ofParts]
  exact ⟨htallied.processed_eq, rfl, hjudged.lt_length, hjudged.pairwise_lt, htallied.length_eq,
    hcontributions, hparts, hcontributions.summary_eq hparts⟩

theorem every_item_accounted_for_of_sample :
    ∃ report, (Sample.pass.withToken .fresh).Yields Sample.items report ∧
      report.processed = 5 ∧ report.failures.size = 2 ∧
      report.catalog.wellKnownIds.toList = [(⟨2⟩, 7)] ∧
      (∀ part, part ∈ report.catalog.applicationParts ↔ part = "Orders") ∧
      report.catalog.summary.text = "1 types, 1 interfaces, 2 invokers, 1 proxies, " ++
        "0 activatable, 0 providers, 0 aliases, 1 ids, 1 parts" := by
  obtain ⟨report, hrun⟩ : ∃ report, Sample.pass.run Sample.items = .ok report := ⟨_, rfl⟩
  have hlasts : CancelToken.fresh.Lasts Sample.items.length := CancelToken.lasts_fresh _
  obtain ⟨hprocessed, -, -, -, hlength, hcontributions, hparts, hsummary⟩ :=
    every_item_accounted_for Sample.start_program hlasts (.alone hrun)
  rw [keepAt_congr (Sample.accepts_items hrun)] at hlength hcontributions hsummary
  refine ⟨report, .alone hrun, hprocessed, ?_, hcontributions.wellKnownIds, ?_, ?_⟩
  · change 3 + report.failures.size = 5 at hlength
    omega
  · intro part
    rw [hparts, Sample.config, List.mem_singleton]
  · rw [hsummary]
    decide +kernel

end Pass

end TypeMetadata
