import TypeMetadata.Proofs.Extraction.Acceptance
import TypeMetadata.Proofs.Extraction.Crew

/-!
Which items of a run fail, and how. A failed item leaves nothing behind, so an item can only clash
with those before it that did not fail.
-/

namespace TypeMetadata

variable {program : Program} {runtime : RuntimeTypes}

/-- An item stands before a position and is not among the failures. -/
def AcceptedBefore (failures : Array Failure) (items : List Item) (position : Nat) (item : Item) :
    Prop :=
  ∃ index < position, items[index]? = some item ∧ ∀ failure ∈ failures, failure.index ≠ index

theorem acceptedBefore_append (failures : Array Failure) {items : List Item} {position : Nat}
    (hposition : position ≤ items.length) (more : List Item) :
    AcceptedBefore failures (items ++ more) position = AcceptedBefore failures items position := by
  funext item
  refine propext (exists_congr fun index => and_congr_right fun hindex => ?_)
  rw [List.getElem?_append_left (by omega)]

namespace Progress

/-- What an item fails with at this point of a run. -/
def verdict? (progress : Progress) : Except DescriptorError Outcome → Option ItemError
  | .error complaint => some (.descriptor complaint)
  | .ok outcome => (progress.catalog.rejection? outcome).map .catalog

theorem failures_commit (progress : Progress) (index : Nat)
    (extracted : Except DescriptorError Outcome) :
    (progress.commit index extracted).failures.toList =
      progress.failures.toList ++ ((progress.verdict? extracted).map (⟨index, ·⟩)).toList := by
  rcases progress.commit_cases index extracted with
    ⟨_, heq, ⟨_, rfl, rfl⟩ | ⟨_, _, rfl, hrejection, rfl⟩⟩ | ⟨_, rfl, hrejection, heq⟩
  · rw [heq]
    simp [verdict?]
  · rw [heq]
    simp [verdict?, hrejection]
  · rw [heq]
    simp [verdict?, hrejection]

theorem mem_failures_commit (progress : Progress) (index : Nat)
    (extracted : Except DescriptorError Outcome) (failure : Failure) :
    failure ∈ (progress.commit index extracted).failures ↔
      failure ∈ progress.failures ∨
        failure.index = index ∧ progress.verdict? extracted = some failure.error := by
  rw [← Array.mem_toList_iff, failures_commit, List.mem_append, Array.mem_toList_iff,
    Option.mem_toList, Option.map_eq_some_iff]
  refine or_congr_right ⟨?_, ?_⟩
  · rintro ⟨error, hverdict, rfl⟩
    exact ⟨rfl, hverdict⟩
  · rintro ⟨rfl, hverdict⟩
    exact ⟨_, hverdict, rfl⟩

theorem index_lt_of_mem_commit {progress : Progress} {bound : Nat}
    (hbound : ∀ failure ∈ progress.failures, failure.index < bound)
    {extracted : Except DescriptorError Outcome} :
    ∀ failure ∈ (progress.commit bound extracted).failures, failure.index < bound + 1 := by
  intro failure hfailure
  rcases (progress.mem_failures_commit _ _ _).mp hfailure with hearlier | ⟨rfl, -⟩
  · exact Nat.lt_succ_of_lt (hbound failure hearlier)
  · exact Nat.lt_succ_self _

theorem verdict?_descriptor_iff (progress : Progress) {item : Item}
    {extracted : Except DescriptorError Outcome}
    (hextract : item.extract program runtime = .ok extracted) :
    (∃ complaint, progress.verdict? extracted = some (.descriptor complaint)) ↔
      item.IsMalformed program runtime := by
  rw [← Item.extract_eq_error_iff hextract]
  cases extracted <;> simp [verdict?]

theorem verdict?_catalog_iff {progress : Progress} {accepted : Item → Prop}
    (hreflects : progress.catalog.Reflects accepted) {item : Item}
    {extracted : Except DescriptorError Outcome}
    (hextract : item.extract program runtime = .ok extracted) (refusal : CatalogError) :
    progress.verdict? extracted = some (.catalog refusal) ↔
      ¬item.IsMalformed program runtime ∧ item.ClashesBy accepted refusal := by
  rw [← Item.extract_eq_error_iff hextract]
  cases extracted with
  | error complaint => simp [verdict?]
  | ok outcome => simp [verdict?, hreflects.rejection?_eq_some_iff hextract]

end Progress

/-- The failures of a run over items, judged by the items that did not fail. -/
structure Judged (program : Program) (runtime : RuntimeTypes) (items : List Item)
    (failures : Array Failure) : Prop where
  lt_length : ∀ failure ∈ failures, failure.index < items.length
  pairwise_lt : (failures.toList.map Failure.index).Pairwise (· < ·)
  descriptor_iff : ∀ (index : Nat) (item : Item), items[index]? = some item →
    ((∃ complaint, (⟨index, .descriptor complaint⟩ : Failure) ∈ failures) ↔
      item.IsMalformed program runtime)
  catalog_iff : ∀ (index : Nat) (item : Item), items[index]? = some item → ∀ refusal,
    (⟨index, .catalog refusal⟩ : Failure) ∈ failures ↔
      ¬item.IsMalformed program runtime ∧
        item.ClashesBy (AcceptedBefore failures items index) refusal

namespace Judged

variable {done : List Item} {progress : Progress} {item : Item}
  {extracted : Except DescriptorError Outcome}

theorem acceptedBefore_commit {position : Nat} (hposition : position ≤ done.length) :
    AcceptedBefore (progress.commit done.length extracted).failures (done ++ [item]) position =
      AcceptedBefore progress.failures done position := by
  rw [acceptedBefore_append _ hposition]
  funext other
  refine propext (exists_congr fun index => and_congr_right fun hindex => ?_)
  refine and_congr_right fun _ => ?_
  simp only [Progress.mem_failures_commit]
  constructor
  · intro hfree failure hfailure
    exact hfree failure (.inl hfailure)
  · rintro hfree failure (hfailure | ⟨hlast, -⟩)
    · exact hfree failure hfailure
    · omega

/-- The item of a step is accepted exactly if there is no verdict against it. -/
theorem acceptedBefore_succ (hjudged : Judged program runtime done progress.failures) :
    AcceptedBefore (progress.commit done.length extracted).failures (done ++ [item])
        (done.length + 1) =
      fun other => AcceptedBefore progress.failures done done.length other ∨
        (progress.verdict? extracted = none ∧ other = item) := by
  rw [← acceptedBefore_commit (Nat.le_refl done.length)]
  funext other
  refine propext ⟨?_, ?_⟩
  · rintro ⟨index, hlt, hitem, hfree⟩
    rcases Nat.lt_succ_iff_lt_or_eq.mp hlt with hlt | rfl
    · exact .inl ⟨index, hlt, hitem, hfree⟩
    · rw [List.getElem?_concat_length, Option.some_inj] at hitem
      refine .inr ⟨Option.eq_none_iff_forall_ne_some.mpr ?_, hitem.symm⟩
      intro error hverdict
      exact hfree ⟨done.length, error⟩
        ((progress.mem_failures_commit _ _ _).mpr (.inr ⟨rfl, hverdict⟩)) rfl
  · rintro (⟨index, hlt, hitem, hfree⟩ | ⟨hverdict, rfl⟩)
    · exact ⟨index, Nat.lt_succ_of_lt hlt, hitem, hfree⟩
    · refine ⟨done.length, Nat.lt_succ_self _, List.getElem?_concat_length, ?_⟩
      intro failure hfailure heq
      rcases (progress.mem_failures_commit _ _ _).mp hfailure with hearlier | ⟨-, hsome⟩
      · have := hjudged.lt_length failure hearlier
        omega
      · rw [hverdict] at hsome
        cases hsome

theorem mem_commit_of_lt {index : Nat} (hlt : index < done.length) (error : ItemError) :
    ⟨index, error⟩ ∈ (progress.commit done.length extracted).failures ↔
      ⟨index, error⟩ ∈ progress.failures := by
  rw [Progress.mem_failures_commit, or_iff_left]
  rintro ⟨heq, -⟩
  exact Nat.ne_of_lt hlt heq

theorem mem_commit_last (hjudged : Judged program runtime done progress.failures)
    (error : ItemError) :
    ⟨done.length, error⟩ ∈ (progress.commit done.length extracted).failures ↔
      progress.verdict? extracted = some error := by
  rw [Progress.mem_failures_commit, or_iff_right, and_iff_right rfl]
  intro hearlier
  exact Nat.lt_irrefl _ (hjudged.lt_length _ hearlier)

theorem getElem?_concat_cases {index : Nat} {other : Item}
    (hother : (done ++ [item])[index]? = some other) :
    (index < done.length ∧ done[index]? = some other) ∨ (index = done.length ∧ item = other) := by
  rw [List.getElem?_append] at hother
  split at hother
  · rename_i hlt
    exact .inl ⟨hlt, hother⟩
  · rw [List.getElem?_singleton, Option.ite_none_right_eq_some, Option.some_inj] at hother
    exact .inr ⟨by omega, hother.2⟩

theorem commit (hjudged : Judged program runtime done progress.failures)
    (hreflects : progress.catalog.Reflects (AcceptedBefore progress.failures done done.length))
    (hextract : item.extract program runtime = .ok extracted) :
    Judged program runtime (done ++ [item]) (progress.commit done.length extracted).failures := by
  refine ⟨?_, ?_, ?_, ?_⟩
  · rw [List.length_append, List.length_singleton]
    exact Progress.index_lt_of_mem_commit hjudged.lt_length
  · rw [Progress.failures_commit, List.map_append, List.pairwise_append]
    refine ⟨hjudged.pairwise_lt, ?_, ?_⟩
    · cases progress.verdict? extracted <;> simp
    · intro earlier hearlier last hlast
      obtain ⟨failure, hfailure, rfl⟩ := List.mem_map.mp hearlier
      have hlt := hjudged.lt_length failure (Array.mem_toList_iff.mp hfailure)
      cases hverdict : progress.verdict? extracted <;> simp_all
  · intro index other hother
    rcases getElem?_concat_cases hother with ⟨hlt, hother⟩ | ⟨rfl, rfl⟩
    · simp only [mem_commit_of_lt hlt]
      exact hjudged.descriptor_iff index other hother
    · simp only [hjudged.mem_commit_last]
      exact progress.verdict?_descriptor_iff hextract
  · intro index other hother refusal
    rcases getElem?_concat_cases hother with ⟨hlt, hother⟩ | ⟨rfl, rfl⟩
    · rw [mem_commit_of_lt hlt, acceptedBefore_commit (Nat.le_of_lt hlt)]
      exact hjudged.catalog_iff index other hother refusal
    · rw [hjudged.mem_commit_last, acceptedBefore_commit (Nat.le_refl _)]
      exact Progress.verdict?_catalog_iff hreflects hextract refusal

theorem reflects_commit (hjudged : Judged program runtime done progress.failures)
    (hreflects : progress.catalog.Reflects (AcceptedBefore progress.failures done done.length))
    (hextract : item.extract program runtime = .ok extracted) :
    (progress.commit done.length extracted).catalog.Reflects
      (AcceptedBefore (progress.commit done.length extracted).failures (done ++ [item])
        (done.length + 1)) := by
  rw [hjudged.acceptedBefore_succ]
  rcases progress.commit_cases done.length extracted with
    ⟨_, heq, ⟨_, rfl, rfl⟩ | ⟨_, _, rfl, hrejection, rfl⟩⟩ | ⟨_, rfl, hrejection, heq⟩
  · rw [heq]
    simpa [Progress.verdict?] using hreflects
  · rw [heq]
    simpa [Progress.verdict?, hrejection] using hreflects
  · rw [heq]
    simpa [Progress.verdict?, hrejection] using hreflects.addAll hextract hrejection

end Judged

theorem acceptedBefore_zero (failures : Array Failure) (items : List Item) :
    AcceptedBefore failures items 0 = fun _ => False := by
  funext item
  refine propext ⟨?_, False.elim⟩
  rintro ⟨index, hlt, -⟩
  exact Nat.not_lt_zero index hlt

theorem Catalog.reflects_ofParts (names : List String) :
    (Catalog.ofParts names).Reflects fun _ => False where
  indexed := indexed_ofParts names
  ids_iff ty id := by simp [rows_ofParts]
  keys_iff key := by simp [rows_ofParts]

namespace Pass

variable {pass : Pass} {config : Config} {token : CancelToken} {items : List Item} {report : Report}

theorem judged_of_run (hstart : Pass.start program config = .ok pass)
    (hlasts : token.Lasts items.length) (hrun : (pass.withToken token).run items = .ok report) :
    Judged program pass.runtime items report.failures := by
  obtain ⟨-, rfl, hcatalog, -, -⟩ := start_eq_ok hstart
  have hwhole : (pass.withToken token).token.Lasts items.length := hlasts
  have hempty : Judged pass.program pass.runtime [] (pass.withToken token).begin.failures :=
    ⟨by simp [begin], by simp [begin], by simp, by simp⟩
  have hnothing : (pass.withToken token).begin.catalog.Reflects
      (AcceptedBefore (pass.withToken token).begin.failures [] 0) := by
    rw [acceptedBefore_zero]
    change pass.catalog.Reflects _
    rw [hcatalog]
    exact Catalog.reflects_ofParts config.applicationParts
  obtain ⟨progress, rfl, hjudged, -⟩ := run_induction
    (motive := fun done progress =>
      Judged pass.program pass.runtime done progress.failures ∧
        progress.catalog.Reflects (AcceptedBefore progress.failures done done.length))
    ⟨hempty, hnothing⟩
    (fun done item progress extracted ⟨hjudged, hreflects⟩ hextract =>
      ⟨hjudged.commit hreflects hextract, by
        rw [List.length_append, List.length_singleton]
        exact hjudged.reflects_commit hreflects hextract⟩)
    hrun
  rwa [hwhole.take_eq] at hjudged

/-- Which items of a run that is not stopped fail, and how: a type for a malformed hook or for an id
that an accepted type before it has, an interface for its proxy base or for the first of its methods
that is taken, and nothing else. -/
theorem failures_exactly (hstart : Pass.start program config = .ok pass)
    (hlasts : token.Lasts items.length)
    (hyields : (pass.withToken token).Yields items report) :
    (∀ failure ∈ report.failures, failure.index < items.length) ∧
      (report.failures.toList.map Failure.index).Pairwise (· < ·) ∧
      (∀ (index : Nat) (item : TypeItem), items[index]? = some (.type item) →
        ((∃ complaint, (⟨index, .descriptor complaint⟩ : Failure) ∈ report.failures) ↔
          program.HasMalformedHook item.type) ∧
        ∀ refusal, (⟨index, .catalog refusal⟩ : Failure) ∈ report.failures ↔
          ¬program.HasMalformedHook item.type ∧
            ∃ id other, item.wellKnownId = some id ∧
              AcceptedBefore report.failures items index (.type other) ∧
              other.wellKnownId = some id ∧
              refusal = .duplicateWellKnownId id other.type item.type) ∧
      (∀ (index : Nat) (item : InterfaceItem), items[index]? = some (.interface item) →
        ((∃ complaint, (⟨index, .descriptor complaint⟩ : Failure) ∈ report.failures) ↔
          ¬program.HasEntryPoint pass.runtime item.proxyBase) ∧
        ∀ refusal, (⟨index, .catalog refusal⟩ : Failure) ∈ report.failures ↔
          program.HasEntryPoint pass.runtime item.proxyBase ∧
            ∃ before method after, item.methods = before ++ method :: after ∧
              method.IsTaken (AcceptedBefore report.failures items index) before ∧
              (∀ first other last, before = first ++ other :: last →
                ¬other.IsTaken (AcceptedBefore report.failures items index) first) ∧
              refusal = .duplicateInvoker method.name) ∧
      ∀ (index : Nat) (ty : TypeHandle), items[index]? = some (.provider ty) →
        ∀ failure ∈ report.failures, failure.index ≠ index := by
  have hjudged := judged_of_run hstart hlasts (yields_iff.mp hyields)
  refine ⟨hjudged.lt_length, hjudged.pairwise_lt, ?_, ?_, ?_⟩
  · intro index item hitem
    exact ⟨hjudged.descriptor_iff index _ hitem, hjudged.catalog_iff index _ hitem⟩
  · intro index item hitem
    refine ⟨hjudged.descriptor_iff index _ hitem, ?_⟩
    intro refusal
    rw [hjudged.catalog_iff index _ hitem, Item.IsMalformed, not_not]
    exact Iff.rfl
  · rintro index ty hitem ⟨_, complaint | refusal⟩ hfailure rfl
    · exact (hjudged.descriptor_iff _ _ hitem).mp ⟨complaint, hfailure⟩
    · exact ((hjudged.catalog_iff _ _ hitem refusal).mp hfailure).2

theorem failures_of_sample :
    ∃ report, (Sample.pass.withToken .fresh).Yields Sample.items report ∧
      (⟨1, .catalog (.duplicateWellKnownId 7 ⟨2⟩ ⟨3⟩)⟩ : Failure) ∈ report.failures ∧
      (∃ complaint, (⟨3, .descriptor complaint⟩ : Failure) ∈ report.failures) ∧
      ∀ failure ∈ report.failures, failure.index ≠ 4 := by
  obtain ⟨report, hrun⟩ : ∃ report, (Sample.pass.withToken .fresh).run Sample.items = .ok report :=
    ⟨_, rfl⟩
  have hyields : (Sample.pass.withToken .fresh).Yields Sample.items report := .alone hrun
  obtain ⟨-, -, htypes, hinterfaces, hproviders⟩ :=
    failures_exactly Sample.start_program (CancelToken.lasts_fresh _) hyields
  have hsound : ∀ ty decl, Sample.program.decl ty = .ok decl → decl.capabilities = [] →
      ¬Sample.program.HasMalformedHook ty := by
    rintro ty decl hdecl hnone ⟨_, hsame, applied, hmem, -⟩
    rw [hdecl, Except.ok.injEq] at hsame
    rw [← hsame, hnone] at hmem
    exact List.not_mem_nil hmem
  have hfirst : AcceptedBefore report.failures Sample.items 1
      (.type ⟨⟨2⟩, [], none, some 7, false⟩) := by
    refine ⟨0, Nat.one_pos, rfl, ?_⟩
    rintro ⟨_, complaint | refusal⟩ hfailure rfl
    · exact hsound ⟨2⟩ _ rfl rfl ((htypes 0 _ rfl).1.mp ⟨complaint, hfailure⟩)
    · obtain ⟨-, _, _, -, ⟨_, hlt, -⟩, -⟩ := ((htypes 0 _ rfl).2 refusal).mp hfailure
      exact Nat.not_lt_zero _ hlt
  refine ⟨report, hyields, ?_, ?_, hproviders 4 ⟨2⟩ rfl⟩
  · exact ((htypes 1 _ rfl).2 _).mpr ⟨hsound ⟨3⟩ _ rfl rfl, 7, _, rfl, hfirst, rfl, rfl⟩
  · refine (hinterfaces 3 _ rfl).1.mpr fun hentry => ?_
    have hanswer : ∃ error, Sample.program.checkProxyBase Sample.pass.runtime ⟨3⟩ =
        .ok (.error error) := ⟨_, rfl⟩
    obtain ⟨error, hcheck⟩ := hanswer
    cases (Program.checkProxyBase_eq_ok_iff hcheck).mpr hentry

end Pass

end TypeMetadata
