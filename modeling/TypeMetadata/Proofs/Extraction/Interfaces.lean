import TypeMetadata.Proofs.Descriptor.Invokers
import TypeMetadata.Proofs.Extraction.Crew
import TypeMetadata.Proofs.Extraction.Item

/-!
The classes that are generated for interfaces. Proxies, invokers, and the index of invokers are
filled apart from the interfaces, and after every step of a run they still follow from the
interfaces alone.
-/

namespace TypeMetadata

variable {program : Program} {runtime : RuntimeTypes}

/-- The interfaces of a catalog have proxy bases that keep the contract, and decide what the catalog
holds of generated classes. -/
structure Catalog.FollowsInterfaces (program : Program) (runtime : RuntimeTypes)
    (catalog : Catalog) : Prop where
  proxies_eq : catalog.rows .proxies = (catalog.rows .interfaces).map InterfaceDescriptor.proxy
  invokers_eq : catalog.rows .invokers =
    (catalog.rows .interfaces).flatMap InterfaceDescriptor.invokers
  bases_kept : ∀ descriptor : InterfaceDescriptor, descriptor ∈ catalog.rows .interfaces →
    program.checkProxyBase runtime descriptor.proxyBase = .ok (.ok ())
  indexed : catalog.Indexed

theorem Outcome.rows_proxies (outcome : Outcome) :
    outcome.rows .proxies = (outcome.rows .interfaces).map InterfaceDescriptor.proxy := by
  cases outcome <;> rfl

theorem Outcome.rows_invokers (outcome : Outcome) :
    outcome.rows .invokers = (outcome.rows .interfaces).flatMap InterfaceDescriptor.invokers := by
  cases outcome <;> simp [rows]

/-- Only an interface item adds an interface, and only if its proxy base keeps the contract. -/
theorem Item.checkProxyBase_of_mem_rows {item : Item} {outcome : Outcome}
    (hextract : item.extract program runtime = .ok (.ok outcome))
    {descriptor : InterfaceDescriptor} (hmem : descriptor ∈ outcome.rows .interfaces) :
    program.checkProxyBase runtime descriptor.proxyBase = .ok (.ok ()) := by
  rcases extract_cases hextract with
    ⟨_, _, _, -, -, rfl⟩ | ⟨_, descriptor, -, -, hcheck, rfl⟩ | ⟨_, _, -, rfl⟩
  · cases hmem
  · obtain rfl := List.mem_singleton.mp hmem
    exact hcheck
  · cases hmem

namespace Catalog.FollowsInterfaces

variable {catalog : Catalog}

theorem ofParts (names : List String) :
    (Catalog.ofParts names).FollowsInterfaces program runtime where
  proxies_eq := by simp only [rows_ofParts, List.map_nil]
  invokers_eq := by simp only [rows_ofParts, List.flatMap_nil]
  bases_kept descriptor hmem := by simp [rows_ofParts] at hmem
  indexed := indexed_ofParts names

theorem addAll (hfollows : catalog.FollowsInterfaces program runtime) {item : Item}
    {outcome : Outcome} (hextract : item.extract program runtime = .ok (.ok outcome))
    (hrejection : catalog.rejection? outcome = none) :
    (catalog.addAll outcome.entries).FollowsInterfaces program runtime := by
  refine ⟨?_, ?_, ?_, hfollows.indexed.addAll (admits_entries catalog hrejection)⟩
  · simp only [rows_addAll_entries, hfollows.proxies_eq, outcome.rows_proxies, List.map_append]
  · simp only [rows_addAll_entries, hfollows.invokers_eq, outcome.rows_invokers,
      List.flatMap_append]
  · intro descriptor hmem
    rw [rows_addAll_entries, List.mem_append] at hmem
    rcases hmem with hmem | hmem
    · exact hfollows.bases_kept descriptor hmem
    · exact Item.checkProxyBase_of_mem_rows hextract hmem

/-- No step of a run breaks the bond, whether its item goes in or is turned away. -/
theorem commit {progress : Progress}
    (hfollows : progress.catalog.FollowsInterfaces program runtime) {item : Item}
    {extracted : Except DescriptorError Outcome}
    (hextract : item.extract program runtime = .ok extracted) (index : Nat) :
    (progress.commit index extracted).catalog.FollowsInterfaces program runtime := by
  rcases progress.commit_cases index extracted with
    ⟨error, heq, -⟩ | ⟨outcome, rfl, hrejection, heq⟩
  · rwa [heq]
  · rw [heq]
    exact hfollows.addAll hextract hrejection

theorem keys_nodup (hfollows : catalog.FollowsInterfaces program runtime) :
    ((catalog.rows .interfaces).flatMap fun descriptor =>
      descriptor.methods.map MethodDescriptor.key).Nodup := by
  have hkeys := hfollows.indexed.keys_nodup
  rw [hfollows.invokers_eq, List.map_flatMap] at hkeys
  simpa only [InterfaceDescriptor.map_key_invokers] using hkeys

theorem invoker?_eq (hfollows : catalog.FollowsInterfaces program runtime)
    {descriptor : InterfaceDescriptor} (hmem : descriptor ∈ catalog.rows .interfaces)
    {position : Nat} {method : MethodDescriptor}
    (hmethod : descriptor.methods[position]? = some method) :
    catalog.invoker? method.key = descriptor.invokers[position]? := by
  have hinvoker := descriptor.invokers_getElem? position
  rw [hmethod, Option.map_some] at hinvoker
  rw [hinvoker, hfollows.indexed.invoker?_eq_some_iff, hfollows.invokers_eq]
  exact ⟨List.mem_flatMap_of_mem hmem (List.mem_of_getElem? hinvoker), rfl⟩

end Catalog.FollowsInterfaces

namespace Pass

variable {pass : Pass}

theorem followsInterfaces_of_run {config : Config}
    (hstart : Pass.start program config = .ok pass) (token : CancelToken) {items : List Item}
    {report : Report} (hrun : (pass.withToken token).run items = .ok report) :
    report.catalog.FollowsInterfaces program pass.runtime := by
  obtain ⟨-, rfl, hcatalog, -, -⟩ := start_eq_ok hstart
  have hbegin : (pass.withToken token).begin.catalog.FollowsInterfaces pass.program
      pass.runtime := by
    change pass.catalog.FollowsInterfaces _ _
    rw [hcatalog]
    exact .ofParts config.applicationParts
  obtain ⟨progress, rfl, hfollows⟩ := run_induction
    (motive := fun _ progress => progress.catalog.FollowsInterfaces pass.program pass.runtime)
    hbegin
    (fun done item progress extracted hfollows hextract => hfollows.commit hextract done.length)
    hrun
  exact hfollows

/-- Whatever items a pass accepts and rejects, and wherever it is stopped, the interfaces in its
catalog alone decide the proxies, the invokers, and which invoker each method has. -/
theorem generated_classes_follow_interfaces {config : Config}
    (hstart : Pass.start program config = .ok pass) (token : CancelToken) {items : List Item}
    {report : Report} (hyields : (pass.withToken token).Yields items report) :
    report.catalog.proxies.toList =
        report.catalog.interfaces.toList.map InterfaceDescriptor.proxy ∧
      report.catalog.invokers.toList =
        report.catalog.interfaces.toList.flatMap InterfaceDescriptor.invokers ∧
      (report.catalog.interfaces.toList.flatMap fun descriptor =>
        descriptor.methods.map MethodDescriptor.key).Nodup ∧
      ∀ descriptor : InterfaceDescriptor, descriptor ∈ report.catalog.interfaces →
        (∀ (position : Nat) (method : MethodDescriptor),
          descriptor.methods[position]? = some method →
            ∃ invoker, descriptor.invokers[position]? = some invoker ∧
              report.catalog.invoker? method.key = some invoker ∧ invoker.method = method ∧
              invoker.generatedNamespace = descriptor.generatedNamespace) ∧
        program.checkProxyBase pass.runtime descriptor.proxyBase = .ok (.ok ()) ∧
        (descriptor.invokers.map InvokerDescriptor.name).Nodup := by
  have hfollows := followsInterfaces_of_run hstart token (yields_iff.mp hyields)
  refine ⟨hfollows.proxies_eq, hfollows.invokers_eq, hfollows.keys_nodup, ?_⟩
  intro descriptor hdescriptor
  have hmem : descriptor ∈ report.catalog.rows .interfaces := Array.mem_toList_iff.mpr hdescriptor
  refine ⟨?_, hfollows.bases_kept descriptor hmem, descriptor.names_nodup⟩
  intro position method hmethod
  have hinvoker := descriptor.invokers_getElem? position
  rw [hmethod, Option.map_some] at hinvoker
  exact ⟨_, hinvoker, hinvoker ▸ hfollows.invoker?_eq hmem hmethod, rfl, rfl⟩

end Pass

namespace Sample

/-- The flag is set while the first item is at work. -/
def stopped : Pass :=
  pass.withToken ⟨some 1⟩

def stoppedItems : List Item := [.interface orders, .provider ⟨2⟩]

theorem run_stoppedItems : ∃ report, stopped.run stoppedItems = .ok report ∧
    ordersDescriptor ∈ report.catalog.interfaces := by
  have hconflict : (Catalog.ofParts ["Orders"]).conflict? [] ordersDescriptor.invokers = none := by
    rw [Catalog.conflict?_eq_none_iff, InterfaceDescriptor.map_key_invokers]
    refine ⟨by decide, ?_⟩
    intro invoker _
    exact ⟨Catalog.hasInvoker_ofParts _ _, List.not_mem_nil⟩
  have hcommit : (stopped.begin.commit 0 (.ok (.interface ordersDescriptor))).catalog =
      (Catalog.ofParts ["Orders"]).addAll (Outcome.interface ordersDescriptor).entries := by
    simp only [Progress.commit, Pass.begin, stopped, Pass.withToken, pass, Catalog.perform_insert,
      Catalog.rejection?, hconflict, Option.map_none]
  refine ⟨_, rfl, Array.mem_toList_iff.mp ?_⟩
  change _ ∈ (stopped.begin.commit 0
    (.ok (.interface ordersDescriptor))).catalog.rows .interfaces
  rw [hcommit, Catalog.rows_addAll_entries]
  exact List.mem_append_right _ List.mem_cons_self

end Sample

namespace Pass

/-- One of two workers finds the flag set before it has taken an item, while the other is about to
take its first. -/
theorem generated_classes_of_orders :
    ∃ report, Sample.stopped.Yields Sample.stoppedItems report ∧
      report.processed = 1 ∧ report.total = 2 ∧
      Sample.ordersDescriptor ∈ report.catalog.interfaces ∧
      report.catalog.proxies.toList =
        report.catalog.interfaces.toList.map InterfaceDescriptor.proxy ∧
      (report.catalog.invoker? ⟨⟨3⟩, ⟨1⟩⟩).map InvokerDescriptor.name =
        some "Invokable_IOrders_Place_0" ∧
      (report.catalog.invoker? ⟨⟨3⟩, ⟨2⟩⟩).map InvokerDescriptor.name =
        some "Invokable_IOrders_Cancel_1" := by
  obtain ⟨report, hrun, hmem⟩ := Sample.run_stoppedItems
  have hfinished : ((Crew.start Sample.stopped.token 2).follow Sample.stopped.extract
      Sample.stoppedItems.toArray [0, 1, 0, 0, 0, 0]).isFinished = true := by
    decide +kernel
  have hyields : Sample.stopped.Yields Sample.stoppedItems report :=
    .crew 2 [0, 1, 0, 0, 0, 0] (by decide) hfinished
      ((runScheduled_eq (by decide) hfinished).trans hrun)
  obtain ⟨hprocessed, htotal, -⟩ := isCancelled_iff_of_run hrun
  obtain ⟨hproxies, -, -, hinterfaces⟩ :=
    generated_classes_follow_interfaces Sample.start_program ⟨some 1⟩ hyields
  obtain ⟨hinvokers, -, -⟩ := hinterfaces Sample.ordersDescriptor hmem
  obtain ⟨place, hplace, hfirst, -⟩ := hinvokers 0 ⟨⟨3⟩, ⟨1⟩, "Place"⟩ rfl
  obtain ⟨cancel, hcancel, hsecond, -⟩ := hinvokers 1 ⟨⟨3⟩, ⟨2⟩, "Cancel"⟩ rfl
  refine ⟨report, hyields, hprocessed, htotal, hmem, hproxies, ?_, ?_⟩
  · change (report.catalog.invoker? (MethodDescriptor.key ⟨⟨3⟩, ⟨1⟩, "Place"⟩)).map _ = _
    rw [hfirst, ← hplace]
    rfl
  · change (report.catalog.invoker? (MethodDescriptor.key ⟨⟨3⟩, ⟨2⟩, "Cancel"⟩)).map _ = _
    rw [hsecond, ← hcancel]
    rfl

end Pass

end TypeMetadata
