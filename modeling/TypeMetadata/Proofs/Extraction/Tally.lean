import TypeMetadata.Proofs.Extraction.Omission

/-!
What a run adds up to. Each item is among the failures or has gone into the catalog with everything
that it turned into, and nothing else has.
-/

namespace TypeMetadata

/-- What was asked for, if it was neither declined nor without an answer. -/
def obtained? {ε α : Type} : Query (Except ε α) → Option α
  | .ok (.ok a) => some a
  | _ => none

theorem obtained?_eq_some_iff {ε α : Type} {query : Query (Except ε α)} {a : α} :
    obtained? query = some a ↔ query = .ok (.ok a) := by
  constructor
  · intro hsome
    rcases query with fault | error | b
    · cases hsome
    · cases hsome
    · rw [Option.some_inj.mp hsome]
  · rintro rfl
    rfl

/-! ### Application parts are never added by an item -/

namespace Catalog

theorem applicationParts_addAll (catalog : Catalog) {entries : List Entry}
    (hparts : ∀ entry ∈ entries, entry.part? = none) :
    (catalog.addAll entries).applicationParts = catalog.applicationParts := by
  induction entries generalizing catalog with
  | nil => rfl
  | cons entry entries ih =>
      rw [addAll_cons, ih _ fun other hother => hparts other (List.mem_cons_of_mem _ hother),
        applicationParts_add, hparts entry List.mem_cons_self, Option.elim_none]

theorem addAll_append (catalog : Catalog) (first second : List Entry) :
    catalog.addAll (first ++ second) = (catalog.addAll first).addAll second :=
  List.foldl_append

end Catalog

theorem Providers.part?_eq_none_of_mem {providers : Providers} {ty : TypeHandle} {entry : Entry}
    (hentry : entry ∈ providers.entries ty) : entry.part? = none := by
  simp only [Providers.entries, List.mem_append] at hentry
  rcases hentry with (hentry | hentry) | hentry <;> split at hentry <;> simp_all [Entry.part?]

theorem Outcome.part?_eq_none_of_mem {outcome : Outcome} {entry : Entry}
    (hentry : entry ∈ outcome.entries) : entry.part? = none := by
  cases outcome with
  | type descriptor item providers =>
      simp only [Outcome.entries, List.mem_append] at hentry
      rcases hentry with (((hentry | hentry) | hentry) | hentry) | hentry
      · cases hid : item.wellKnownId <;> simp_all [Entry.part?]
      · cases hname : item.alternateName <;> simp_all [Entry.part?]
      · exact Providers.part?_eq_none_of_mem hentry
      · split at hentry <;> simp_all [Entry.part?]
      · simp_all [Entry.part?]
  | interface descriptor =>
      simp only [Outcome.entries, List.mem_append, List.mem_cons, List.mem_map,
        List.not_mem_nil, or_false] at hentry
      rcases hentry with (rfl | ⟨invoker, -, rfl⟩) | rfl <;> rfl
  | provider ty providers => exact Providers.part?_eq_none_of_mem hentry

/-! ### Accepted items, step by step -/

section Accepted

variable {failures : Array Failure} {done : List Item}

theorem keepAt_accepts_push (failures : Array Failure) (done : List Item) (item : Item)
    (error : ItemError) :
    keepAt (accepts (failures.push ⟨done.length, error⟩)) (done ++ [item]) =
      keepAt (accepts failures) done := by
  rw [keepAt_concat, accepts_push, bne_self_eq_false, Bool.and_false, if_neg (by simp),
    List.append_nil]
  apply keepAt_congr
  intro position hposition
  rw [accepts_push, (bne_iff_ne).mpr (Nat.ne_of_gt hposition), Bool.and_true]

theorem keepAt_accepts_concat (hlt : ∀ failure ∈ failures, failure.index < done.length)
    (item : Item) :
    keepAt (accepts failures) (done ++ [item]) = keepAt (accepts failures) done ++ [item] := by
  rw [keepAt_concat, if_pos]
  exact accepts_iff.mpr fun failure hfailure => Nat.ne_of_lt (hlt failure hfailure)

end Accepted

namespace Pass

variable {pass : Pass} {done items : List Item} {progress : Progress} {report : Report}

def outcome? (pass : Pass) (item : Item) : Option Outcome :=
  obtained? (pass.extract item)

theorem outcome?_eq_some_iff {item : Item} {outcome : Outcome} :
    pass.outcome? item = some outcome ↔ pass.extract item = .ok (.ok outcome) :=
  obtained?_eq_some_iff

/-- What the accepted items turned into makes up the catalog, and the others are the failures. -/
structure Tallied (pass : Pass) (done : List Item) (progress : Progress) : Prop where
  processed_eq : progress.processed = done.length
  lt_length : ∀ failure ∈ progress.failures, failure.index < done.length
  length_eq :
    (keepAt (accepts progress.failures) done).length + progress.failures.size = done.length
  described : ∀ item ∈ keepAt (accepts progress.failures) done, (pass.outcome? item).isSome
  catalog_eq : progress.catalog = pass.catalog.addAll
    (((keepAt (accepts progress.failures) done).filterMap pass.outcome?).flatMap Outcome.entries)
  complaint_iff : ∀ (index : Nat) (item : Item) (complaint : DescriptorError),
    done[index]? = some item →
      ((⟨index, .descriptor complaint⟩ : Failure) ∈ progress.failures ↔
        pass.extract item = .ok (.error complaint))

namespace Tallied

theorem begin (pass : Pass) : pass.Tallied [] pass.begin where
  processed_eq := rfl
  lt_length := by simp [Pass.begin]
  length_eq := rfl
  described := by simp [keepAt]
  catalog_eq := rfl
  complaint_iff := by simp

variable {item : Item} {extracted : Except DescriptorError Outcome}

theorem complaint_iff_commit (htallied : pass.Tallied done progress)
    (hextract : pass.extract item = .ok extracted) (index : Nat) (other : Item)
    (complaint : DescriptorError) (hother : (done ++ [item])[index]? = some other) :
    (⟨index, .descriptor complaint⟩ : Failure) ∈
        (progress.commit done.length extracted).failures ↔
      pass.extract other = .ok (.error complaint) := by
  rcases Judged.getElem?_concat_cases hother with ⟨hlt, hother⟩ | ⟨rfl, rfl⟩
  · rw [Judged.mem_commit_of_lt hlt]
    exact htallied.complaint_iff index other complaint hother
  · rw [Progress.mem_failures_commit, or_iff_right, and_iff_right rfl, hextract, Except.ok.injEq]
    · cases extracted <;> simp [Progress.verdict?]
    · intro hearlier
      exact Nat.lt_irrefl _ (htallied.lt_length _ hearlier)

/-- An item that is turned away changes nothing but the failures. -/
theorem commit_of_verdict (htallied : pass.Tallied done progress)
    (hextract : pass.extract item = .ok extracted) {error : ItemError}
    (hverdict : progress.verdict? extracted = some error) :
    pass.Tallied (done ++ [item]) (progress.commit done.length extracted) := by
  have hcomplaints := htallied.complaint_iff_commit hextract
  have hbound : ∀ failure ∈ (progress.commit done.length extracted).failures,
      failure.index < done.length + 1 := Progress.index_lt_of_mem_commit htallied.lt_length
  have hlength : (done ++ [item]).length = done.length + 1 := List.length_append
  rw [Progress.commit_of_verdict hverdict] at hcomplaints hbound ⊢
  have hkept := keepAt_accepts_push progress.failures done item error
  constructor
  case processed_eq => rw [htallied.processed_eq, hlength]
  case lt_length =>
    rw [hlength]
    exact hbound
  case length_eq =>
    rw [hkept, Array.size_push, hlength, ← htallied.length_eq]
    rfl
  case described =>
    rw [hkept]
    exact htallied.described
  case catalog_eq =>
    rw [hkept]
    exact htallied.catalog_eq
  case complaint_iff => exact hcomplaints

theorem commit_of_no_verdict (htallied : pass.Tallied done progress)
    (hextract : pass.extract item = .ok extracted) (hverdict : progress.verdict? extracted = none) :
    pass.Tallied (done ++ [item]) (progress.commit done.length extracted) := by
  have hcomplaints := htallied.complaint_iff_commit hextract
  have hlength : (done ++ [item]).length = done.length + 1 := List.length_append
  obtain ⟨outcome, rfl, heq⟩ := Progress.commit_of_no_verdict hverdict done.length
  have houtcome : pass.outcome? item = some outcome := outcome?_eq_some_iff.mpr hextract
  rw [heq] at hcomplaints ⊢
  have hkept := keepAt_accepts_concat htallied.lt_length item
  constructor
  case processed_eq => rw [htallied.processed_eq, hlength]
  case lt_length =>
    intro failure hfailure
    rw [hlength]
    exact Nat.lt_succ_of_lt (htallied.lt_length failure hfailure)
  case length_eq =>
    rw [hkept, hlength, ← htallied.length_eq, List.length_append, List.length_singleton]
    exact Nat.add_right_comm _ _ _
  case described =>
    intro other hother
    rw [hkept, List.mem_append, List.mem_singleton] at hother
    rcases hother with hother | rfl
    · exact htallied.described other hother
    · rw [houtcome]
      rfl
  case catalog_eq =>
    rw [hkept, List.filterMap_append, List.flatMap_append, Catalog.addAll_append,
      ← htallied.catalog_eq]
    simp [houtcome]
  case complaint_iff => exact hcomplaints

theorem commit (htallied : pass.Tallied done progress)
    (hextract : pass.extract item = .ok extracted) :
    pass.Tallied (done ++ [item]) (progress.commit done.length extracted) := by
  cases hverdict : progress.verdict? extracted with
  | none => exact htallied.commit_of_no_verdict hextract hverdict
  | some error => exact htallied.commit_of_verdict hextract hverdict

end Tallied

theorem tallied_of_run (hrun : pass.run items = .ok report) :
    ∃ progress, report = progress.report items ∧
      pass.Tallied (items.take (pass.token.allowance items.length)) progress :=
  run_induction (Tallied.begin pass)
    (fun _ _ _ _ htallied hextract => htallied.commit hextract) hrun

namespace Tallied

theorem rows_eq (htallied : pass.Tallied done progress) (category : Category) :
    progress.catalog.rows category = pass.catalog.rows category ++
      ((keepAt (accepts progress.failures) done).filterMap pass.outcome?).flatMap
        (·.rows category) := by
  rw [htallied.catalog_eq, Catalog.rows_addAll, List.filterMap_flatMap]
  simp only [Outcome.filterMap_row?_entries]

theorem applicationParts_eq (htallied : pass.Tallied done progress) :
    progress.catalog.applicationParts = pass.catalog.applicationParts := by
  rw [htallied.catalog_eq]
  apply Catalog.applicationParts_addAll
  intro entry hentry
  obtain ⟨outcome, -, hentry⟩ := List.mem_flatMap.mp hentry
  exact Outcome.part?_eq_none_of_mem hentry

end Tallied

variable {program : Program} {config : Config}

/-- The catalog of a run holds what some of its items turned into, in their order, whether the run
was stopped or not. -/
theorem rows_of_run (hstart : Pass.start program config = .ok pass) (token : CancelToken)
    (hrun : (pass.withToken token).run items = .ok report) :
    ∃ kept : List Item, kept.Sublist items ∧ (∀ item ∈ kept, (pass.outcome? item).isSome) ∧
      ∀ category, report.catalog.rows category =
        (kept.filterMap pass.outcome?).flatMap (·.rows category) := by
  obtain ⟨-, -, hcatalog, -, -⟩ := start_eq_ok hstart
  have hbegin : ∀ category, pass.catalog.rows category = [] := by
    intro category
    rw [hcatalog, Catalog.rows_ofParts]
  obtain ⟨progress, rfl, htallied⟩ := tallied_of_run hrun
  have hkept := keepAt_sublist (accepts progress.failures) (items.take (token.allowance items.length))
  refine ⟨_, hkept.trans (List.take_sublist _ _), htallied.described, ?_⟩
  intro category
  change progress.catalog.rows category = _
  rw [htallied.rows_eq]
  change pass.catalog.rows category ++ _ = _
  rw [hbegin, List.nil_append]
  rfl

theorem outcome_of_mem_rows (hstart : Pass.start program config = .ok pass) (token : CancelToken)
    (hrun : (pass.withToken token).run items = .ok report) {category : Category}
    {row : category.Row} (hrow : row ∈ report.catalog.rows category) :
    ∃ item outcome, item ∈ items ∧ pass.extract item = .ok (.ok outcome) ∧
      row ∈ outcome.rows category := by
  obtain ⟨kept, hkept, -, hrows⟩ := rows_of_run hstart token hrun
  rw [hrows, List.mem_flatMap] at hrow
  obtain ⟨outcome, houtcome, hrow⟩ := hrow
  obtain ⟨item, hitem, houtcome⟩ := List.mem_filterMap.mp houtcome
  exact ⟨item, outcome, hkept.subset hitem, outcome?_eq_some_iff.mp houtcome, hrow⟩

end Pass

end TypeMetadata
