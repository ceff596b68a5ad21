import TypeMetadata.Proofs.Extraction.Rejection

/-!
Leaving out items that failed. They leave nothing behind, so a run over the others stays in step
with the run over all items and comes to the same catalog.
-/

namespace TypeMetadata

/-- What stands at the positions that are kept. -/
def keepAt {α : Type} (keeps : Nat → Bool) (list : List α) : List α :=
  (list.zipIdx.filter fun slot => keeps slot.2).map Prod.fst

section KeepAt

variable {α : Type} {keeps others : Nat → Bool} {list : List α}

theorem keepAt_concat (keeps : Nat → Bool) (list : List α) (last : α) :
    keepAt keeps (list ++ [last]) =
      keepAt keeps list ++ if keeps list.length then [last] else [] := by
  rw [keepAt, List.zipIdx_append, List.filter_append, List.map_append, Nat.zero_add]
  cases hlast : keeps list.length <;> simp [keepAt, hlast]

theorem length_keepAt (keeps : Nat → Bool) (list : List α) :
    (keepAt keeps list).length = (List.range list.length).countP keeps := by
  rw [keepAt, List.length_map, ← List.countP_eq_length_filter, List.range_eq_range',
    ← List.zipIdx_map_snd, List.countP_map]
  rfl

theorem keepAt_sublist (keeps : Nat → Bool) (list : List α) : (keepAt keeps list).Sublist list := by
  have hslots : (list.zipIdx.filter fun slot => keeps slot.2).Sublist list.zipIdx :=
    List.filter_sublist
  have hkept := hslots.map Prod.fst
  rwa [List.zipIdx_map_fst] at hkept

theorem keepAt_congr (hsame : ∀ position < list.length, keeps position = others position) :
    keepAt keeps list = keepAt others list := by
  rw [keepAt, keepAt]
  apply congrArg
  apply List.filter_congr
  rintro ⟨a, position⟩ hslot
  exact hsame position (List.snd_lt_of_mem_zipIdx hslot)

end KeepAt

/-- Whether no failure is about a position. -/
def accepts (failures : Array Failure) (position : Nat) : Bool :=
  failures.all fun failure => failure.index != position

theorem accepts_iff {failures : Array Failure} {position : Nat} :
    accepts failures position = true ↔ ∀ failure ∈ failures, failure.index ≠ position := by
  rw [accepts, Array.all_eq_true']
  simp

theorem accepts_eq_false_iff {failures : Array Failure} {position : Nat} :
    accepts failures position = false ↔ ∃ failure ∈ failures, failure.index = position := by
  rw [← Bool.not_eq_true, accepts_iff]
  simp

theorem accepts_push (failures : Array Failure) (failure : Failure) (position : Nat) :
    accepts (failures.push failure) position =
      (accepts failures position && failure.index != position) := by
  simp [accepts]

/-- An item is accepted exactly if it has a descriptor and clashes with no accepted item. -/
theorem Judged.accepts_iff {program : Program} {runtime : RuntimeTypes} {items : List Item}
    {failures : Array Failure} (hjudged : Judged program runtime items failures) {position : Nat}
    {item : Item} (hitem : items[position]? = some item) :
    accepts failures position = true ↔
      ¬item.IsMalformed program runtime ∧
        ∀ refusal, ¬item.ClashesBy (AcceptedBefore failures items position) refusal := by
  have hdescriptor := hjudged.descriptor_iff position item hitem
  have hcatalog := hjudged.catalog_iff position item hitem
  rw [TypeMetadata.accepts_iff]
  constructor
  · intro hfree
    have hsound : ¬item.IsMalformed program runtime := by
      intro hbad
      obtain ⟨complaint, hfailure⟩ := hdescriptor.mpr hbad
      exact hfree _ hfailure rfl
    refine ⟨hsound, ?_⟩
    intro refusal hclash
    exact hfree _ ((hcatalog refusal).mpr ⟨hsound, hclash⟩) rfl
  · rintro ⟨hsound, hclear⟩ ⟨index, complaint | refusal⟩ hfailure rfl
    · exact hsound (hdescriptor.mp ⟨complaint, hfailure⟩)
    · exact hclear refusal ((hcatalog refusal).mp hfailure).2

namespace Progress

variable {progress : Progress} {extracted : Except DescriptorError Outcome}

theorem commit_of_verdict {error : ItemError} (hverdict : progress.verdict? extracted = some error)
    (index : Nat) :
    progress.commit index extracted =
      ⟨progress.catalog, progress.failures.push ⟨index, error⟩, progress.processed + 1⟩ := by
  rcases progress.commit_cases index extracted with
    ⟨_, heq, ⟨_, rfl, rfl⟩ | ⟨_, _, rfl, hrejection, rfl⟩⟩ | ⟨_, rfl, hrejection, heq⟩
  · rw [verdict?, Option.some_inj] at hverdict
    rw [heq, hverdict]
  · rw [verdict?, hrejection, Option.map_some, Option.some_inj] at hverdict
    rw [heq, hverdict]
  · simp [verdict?, hrejection] at hverdict

theorem commit_of_no_verdict (hverdict : progress.verdict? extracted = none) (index : Nat) :
    ∃ outcome, extracted = .ok outcome ∧
      progress.commit index extracted =
        ⟨progress.catalog.addAll outcome.entries, progress.failures, progress.processed + 1⟩ := by
  rcases progress.commit_cases index extracted with
    ⟨_, heq, ⟨_, rfl, rfl⟩ | ⟨_, _, rfl, hrejection, rfl⟩⟩ | ⟨outcome, rfl, -, heq⟩
  · cases hverdict
  · simp [verdict?, hrejection] at hverdict
  · exact ⟨outcome, rfl, heq⟩

end Progress

/-! ### Two runs in step -/

/-- A failure with its position counted among those that are kept. -/
def Failure.renumber (keeps : Nat → Bool) (failure : Failure) : Failure :=
  ⟨(List.range failure.index).countP keeps, failure.error⟩

def keepFailures (keeps : Nat → Bool) (failures : Array Failure) : Array Failure :=
  (failures.filter fun failure => keeps failure.index).map (Failure.renumber keeps)

theorem keepFailures_push_of_kept {keeps : Nat → Bool} {failure : Failure}
    (hkeeps : keeps failure.index = true) (failures : Array Failure) :
    keepFailures keeps (failures.push failure) =
      (keepFailures keeps failures).push (failure.renumber keeps) := by
  simp [keepFailures, hkeeps]

theorem keepFailures_push_of_omitted {keeps : Nat → Bool} {failure : Failure}
    (hkeeps : keeps failure.index = false) (failures : Array Failure) :
    keepFailures keeps (failures.push failure) = keepFailures keeps failures := by
  simp [keepFailures, hkeeps]

/-- The failure of an accepted position is kept by no one. -/
theorem keepFailures_accepts (failures : Array Failure) :
    keepFailures (accepts failures) failures = #[] := by
  rw [keepFailures, Array.map_eq_empty_iff, Array.filter_eq_empty_iff]
  intro failure hfailure
  rw [Bool.not_eq_true, accepts_eq_false_iff]
  exact ⟨failure, hfailure, rfl⟩

/-- The progress of a run that was spared what is not kept. -/
def Progress.spared (keeps : Nat → Bool) (items : List Item) (progress : Progress) : Progress :=
  ⟨progress.catalog, keepFailures keeps progress.failures, (keepAt keeps items).length⟩

namespace Progress

variable {keeps : Nat → Bool} {done : List Item} {progress : Progress}
  {extracted : Except DescriptorError Outcome}

theorem spared_commit_of_omitted (hkeeps : keeps done.length = false)
    (hfails : (progress.verdict? extracted).isSome = true) (item : Item) :
    (progress.commit done.length extracted).spared keeps (done ++ [item]) =
      progress.spared keeps done := by
  obtain ⟨error, hverdict⟩ := Option.isSome_iff_exists.mp hfails
  rw [commit_of_verdict hverdict, spared, spared, keepFailures_push_of_omitted hkeeps,
    keepAt_concat, hkeeps]
  simp

theorem spared_commit_of_kept (hkeeps : keeps done.length = true) (item : Item) :
    (progress.commit done.length extracted).spared keeps (done ++ [item]) =
      (progress.spared keeps done).commit (keepAt keeps done).length extracted := by
  have hsame : (progress.spared keeps done).verdict? extracted = progress.verdict? extracted :=
    rfl
  have hlength : (keepAt keeps (done ++ [item])).length = (keepAt keeps done).length + 1 := by
    rw [keepAt_concat, hkeeps]
    simp
  cases hverdict : progress.verdict? extracted with
  | none =>
      obtain ⟨outcome, rfl, heq⟩ := commit_of_no_verdict hverdict done.length
      obtain ⟨_, hother, hspared⟩ := commit_of_no_verdict (hsame.trans hverdict)
        (keepAt keeps done).length
      rw [Except.ok.injEq] at hother
      subst hother
      rw [heq, hspared, spared, hlength]
      rfl
  | some error =>
      rw [commit_of_verdict hverdict, commit_of_verdict (hsame.trans hverdict), spared, hlength,
        keepFailures_push_of_kept hkeeps, Failure.renumber, ← length_keepAt]
      rfl

end Progress

namespace Pass

variable {pass : Pass} {items : List Item} {report : Report}

theorem advance_concat {progress last : Progress} {slots : List (Item × Nat)} {item : Item}
    {extracted : Except DescriptorError Outcome}
    (hlast : pass.advance .fresh progress slots = .ok last)
    (hextract : pass.extract item = .ok extracted) (index : Nat) :
    pass.advance .fresh progress (slots ++ [(item, index)]) =
      .ok (last.commit index extracted) := by
  induction slots generalizing progress with
  | nil =>
      rw [advance, pure_eq_ok] at hlast
      rw [List.nil_append, advance_fresh_cons_eq_ok, hlast]
      exact ⟨extracted, hextract, rfl⟩
  | cons slot slots ih =>
      obtain ⟨head, position⟩ := slot
      obtain ⟨found, hfound, hlast⟩ := advance_fresh_cons_eq_ok.mp hlast
      exact advance_fresh_cons_eq_ok.mpr ⟨found, hfound, ih hlast⟩

/-- A run that is spared some of the failed items has come just as far. -/
structure InStep (pass : Pass) (keeps : Nat → Bool) (done : List Item) (progress : Progress) :
    Prop where
  lt_length : ∀ failure ∈ progress.failures, failure.index < done.length
  advance_eq : (∀ position < done.length, keeps position = false →
      accepts progress.failures position = false) →
    pass.advance .fresh pass.begin (keepAt keeps done).zipIdx = .ok (progress.spared keeps done)

namespace InStep

variable {keeps : Nat → Bool} {done : List Item} {progress : Progress} {item : Item}
  {extracted : Except DescriptorError Outcome}

theorem begin (pass : Pass) (keeps : Nat → Bool) : pass.InStep keeps [] pass.begin where
  lt_length := by simp [Pass.begin]
  advance_eq := by
    intro _
    rw [Progress.spared, Pass.begin, keepFailures]
    simp only [keepAt, advance, List.zipIdx_nil, List.filter_nil, List.map_nil, pure_eq_ok,
      Array.filter_empty, Array.map_empty, List.length_nil]

theorem commit (hinStep : pass.InStep keeps done progress)
    (hextract : pass.extract item = .ok extracted) :
    pass.InStep keeps (done ++ [item]) (progress.commit done.length extracted) := by
  have hlength : (done ++ [item]).length = done.length + 1 := List.length_append
  refine ⟨?_, ?_⟩
  · rw [hlength]
    exact Progress.index_lt_of_mem_commit hinStep.lt_length
  · intro homitted
    rw [hlength] at homitted
    have hearlier : pass.advance .fresh pass.begin (keepAt keeps done).zipIdx =
        .ok (progress.spared keeps done) := by
      apply hinStep.advance_eq
      intro position hposition hkeeps
      have hfails := homitted position (Nat.lt_succ_of_lt hposition) hkeeps
      rw [accepts_eq_false_iff] at hfails ⊢
      obtain ⟨failure, hfailure, rfl⟩ := hfails
      rcases (progress.mem_failures_commit _ _ _).mp hfailure with hfailure | ⟨hlast, -⟩
      · exact ⟨failure, hfailure, rfl⟩
      · omega
    cases hkeeps : keeps done.length with
    | true =>
        rw [Progress.spared_commit_of_kept hkeeps, keepAt_concat, if_pos hkeeps,
          List.zipIdx_append, Nat.zero_add]
        exact advance_concat hearlier hextract _
    | false =>
        -- Only a failed item is left out.
        obtain ⟨failure, hfailure, hindex⟩ :=
          accepts_eq_false_iff.mp (homitted done.length (Nat.lt_succ_self _) hkeeps)
        have hverdict : (progress.verdict? extracted).isSome = true := by
          rcases (progress.mem_failures_commit _ _ _).mp hfailure with hfailure | ⟨-, hsome⟩
          · have := hinStep.lt_length failure hfailure
            omega
          · rw [hsome]
            rfl
        rw [Progress.spared_commit_of_omitted hkeeps hverdict, keepAt_concat, hkeeps]
        simpa using hearlier

end InStep

/-- Whichever failed items are left out, the other failures and the catalog stay the same. -/
theorem run_keepAt (hlasts : pass.token.Lasts items.length) (hrun : pass.run items = .ok report)
    {keeps : Nat → Bool}
    (homitted : ∀ position < items.length, keeps position = false →
      accepts report.failures position = false) :
    pass.run (keepAt keeps items) = .ok ⟨report.catalog, keepFailures keeps report.failures,
      (keepAt keeps items).length, (keepAt keeps items).length⟩ := by
  obtain ⟨progress, rfl, hinStep⟩ := run_induction (InStep.begin pass keeps)
    (fun done item progress extracted hinStep hextract => hinStep.commit hextract) hrun
  rw [hlasts.take_eq] at hinStep
  have hfewer : pass.token.Lasts (keepAt keeps items).zipIdx.length := by
    rw [List.length_zipIdx]
    exact hlasts.anti (keepAt_sublist keeps items).length_le
  simp only [run, advance_of_lasts hfewer, bind_eq_ok, pure_eq_ok]
  exact ⟨_, hinStep.advance_eq homitted, rfl⟩

/-- Leave out the items that failed, and nothing fails and the catalog is the same. Leave out only
some of them, and the others fail as before. -/
theorem run_without_failed_items (hlasts : pass.token.Lasts items.length)
    (hyields : pass.Yields items report) :
    pass.run (keepAt (accepts report.failures) items) =
        .ok ⟨report.catalog, #[], (keepAt (accepts report.failures) items).length,
          (keepAt (accepts report.failures) items).length⟩ ∧
      ∀ keeps : Nat → Bool,
        (∀ position < items.length, keeps position = false →
          ∃ failure ∈ report.failures, failure.index = position) →
        pass.run (keepAt keeps items) =
          .ok ⟨report.catalog, keepFailures keeps report.failures, (keepAt keeps items).length,
            (keepAt keeps items).length⟩ := by
  have hrun := yields_iff.mp hyields
  refine ⟨?_, ?_⟩
  · rw [run_keepAt hlasts hrun fun position _ => id, keepFailures_accepts]
  · intro keeps homitted
    apply run_keepAt hlasts hrun
    intro position hposition hkeeps
    exact accepts_eq_false_iff.mpr (homitted position hposition hkeeps)

end Pass

theorem MethodDescriptor.key_ne_of_nodup {before after : List MethodDescriptor}
    {method other : MethodDescriptor}
    (hnodup : ((before ++ method :: after).map MethodDescriptor.key).Nodup)
    (hother : other ∈ before) : other.key ≠ method.key := by
  rw [List.map_append, List.map_cons, List.nodup_append] at hnodup
  exact hnodup.2.2 _ (List.mem_map_of_mem hother) _ List.mem_cons_self

namespace Sample

theorem not_hasMalformedHook {ty : TypeHandle} {decl : TypeDecl}
    (hdecl : program.decl ty = .ok decl) (hplain : decl.capabilities = []) :
    ¬program.HasMalformedHook ty := by
  rintro ⟨other, hother, applied, hmem, -⟩
  rw [hdecl, Except.ok.injEq] at hother
  rw [← hother, hplain] at hmem
  exact List.not_mem_nil hmem

theorem hasEntryPoint_base : program.HasEntryPoint pass.runtime ⟨2⟩ :=
  ⟨_, ⟨0⟩, _, rfl, List.mem_singleton_self _, rfl, rfl, rfl⟩

theorem not_hasEntryPoint_orders : ¬program.HasEntryPoint pass.runtime ⟨3⟩ := by
  obtain ⟨error, hcheck⟩ : ∃ error, program.checkProxyBase pass.runtime ⟨3⟩ =
      .ok (.error error) := ⟨_, rfl⟩
  rw [← Program.checkProxyBase_eq_ok_iff hcheck]
  simp

/-- The second and the fourth item fail. -/
theorem accepts_items {report : Report} (hrun : pass.run items = .ok report) :
    ∀ position < items.length, accepts report.failures position = (position % 2 == 0) := by
  have hjudged : Judged program pass.runtime items report.failures :=
    Pass.judged_of_run start_program (CancelToken.lasts_fresh _) hrun
  have hfirst : accepts report.failures 0 = true := by
    have hitem : items[0]? = some (.type ⟨⟨2⟩, [], none, some 7, false⟩) := rfl
    refine (hjudged.accepts_iff hitem).mpr ⟨not_hasMalformedHook rfl rfl, ?_⟩
    rintro refusal ⟨_, _, -, ⟨_, hlt, -⟩, -⟩
    exact Nat.not_lt_zero _ hlt
  have hsecond : accepts report.failures 1 = false := by
    have hitem : items[1]? = some (.type ⟨⟨3⟩, [], none, some 7, false⟩) := rfl
    rw [← Bool.not_eq_true, hjudged.accepts_iff hitem]
    rintro ⟨-, hclear⟩
    exact hclear _ ⟨7, _, rfl, ⟨0, Nat.one_pos, rfl, accepts_iff.mp hfirst⟩, rfl, rfl⟩
  have hthird : accepts report.failures 2 = true := by
    have hitem : items[2]? = some (.interface orders) := rfl
    refine (hjudged.accepts_iff hitem).mpr ⟨not_not_intro hasEntryPoint_base, ?_⟩
    rintro refusal ⟨before, method, after, hmethods, htaken, -, -⟩
    rcases htaken with ⟨other, hother, hkey⟩ | ⟨_, ⟨index, hlt, hearlier, -⟩, -⟩
    · have hnodup : (orders.methods.map MethodDescriptor.key).Nodup := by decide
      rw [hmethods] at hnodup
      exact MethodDescriptor.key_ne_of_nodup hnodup hother hkey
    · obtain rfl | rfl : index = 0 ∨ index = 1 := by omega
      · cases hearlier
      · cases hearlier
  have hfourth : accepts report.failures 3 = false := by
    have hitem : items[3]? = some (.interface ⟨⟨3⟩, "IOrders", [], ⟨3⟩, false⟩) := rfl
    rw [← Bool.not_eq_true, hjudged.accepts_iff hitem]
    rintro ⟨hsound, -⟩
    exact hsound not_hasEntryPoint_orders
  have hfifth : accepts report.failures 4 = true := by
    have hitem : items[4]? = some (.provider ⟨2⟩) := rfl
    exact (hjudged.accepts_iff hitem).mpr ⟨id, fun _ => id⟩
  intro position hposition
  have hcases : position = 0 ∨ position = 1 ∨ position = 2 ∨ position = 3 ∨ position = 4 := by
    change position < 5 at hposition
    omega
  rcases hcases with rfl | rfl | rfl | rfl | rfl <;> assumption

end Sample

theorem Pass.run_without_failed_items_of_sample :
    ∃ report, Sample.pass.Yields Sample.items report ∧
      (∃ failure ∈ report.failures, failure.index = 1) ∧
      Sample.pass.run (keepAt (· % 2 == 0) Sample.items) = .ok ⟨report.catalog, #[], 3, 3⟩ ∧
      Sample.pass.run (keepAt (· != 3) Sample.items) =
        .ok ⟨report.catalog, keepFailures (· != 3) report.failures, 4, 4⟩ := by
  obtain ⟨report, hrun⟩ : ∃ report, Sample.pass.run Sample.items = .ok report := ⟨_, rfl⟩
  have haccepts := Sample.accepts_items hrun
  have hlasts : Sample.pass.token.Lasts Sample.items.length := CancelToken.lasts_fresh _
  obtain ⟨hclean, hpart⟩ := run_without_failed_items hlasts (.alone hrun)
  rw [keepAt_congr haccepts] at hclean
  refine ⟨report, .alone hrun, ?_, hclean, hpart (· != 3) ?_⟩
  · exact accepts_eq_false_iff.mp (haccepts 1 (by decide))
  · intro position hposition hthree
    obtain rfl : position = 3 := by simpa using hthree
    exact accepts_eq_false_iff.mp (haccepts 3 (by decide))

end TypeMetadata
