import TypeMetadata.Extraction.Pass
import TypeMetadata.Proofs.Catalog.Index
import TypeMetadata.Proofs.Program.Query

/-!
A run, step by step. What one step can do to the progress of a run is said once, and what every step
keeps holds of every run, however soon it is stopped.
-/

namespace TypeMetadata

namespace CancelToken

variable {token : CancelToken} {count : Nat}

/-- How many of some items are taken before a look finds the flag set. -/
def allowance (token : CancelToken) (count : Nat) : Nat :=
  match token.looksLeft with
  | none => count
  | some looks => min looks count

/-- No look before any of some items finds the flag set. -/
def Lasts (token : CancelToken) (count : Nat) : Prop :=
  ∀ looks ∈ token.looksLeft, count ≤ looks

theorem lasts_fresh (count : Nat) : fresh.Lasts count :=
  nofun

theorem Lasts.anti (hlasts : token.Lasts count) {fewer : Nat} (hle : fewer ≤ count) :
    token.Lasts fewer :=
  fun looks hlooks => Nat.le_trans hle (hlasts looks hlooks)

theorem allowance_le (token : CancelToken) (count : Nat) : token.allowance count ≤ count := by
  rw [allowance]
  split
  · exact Nat.le_refl count
  · exact Nat.min_le_right _ _

theorem allowance_zero (token : CancelToken) : token.allowance 0 = 0 :=
  Nat.le_zero.mp (token.allowance_le 0)

theorem allowance_eq_iff : token.allowance count = count ↔ token.Lasts count := by
  rcases token with ⟨_ | looks⟩
  · exact iff_of_true rfl (lasts_fresh count)
  · change min looks count = count ↔ ∀ left ∈ some looks, count ≤ left
    simp only [Option.mem_some_iff, forall_eq']
    omega

theorem Lasts.take_eq {α : Type} {items : List α} (hlasts : token.Lasts items.length) :
    items.take (token.allowance items.length) = items := by
  rw [allowance_eq_iff.mpr hlasts, List.take_length]

theorem allowance_of_isCancelled (hcancelled : token.isCancelled = true) (count : Nat) :
    token.allowance count = 0 := by
  rw [isCancelled, beq_iff_eq] at hcancelled
  rw [allowance, hcancelled]
  exact Nat.zero_min count

theorem allowance_succ (hunset : token.isCancelled = false) (count : Nat) :
    token.allowance (count + 1) = token.afterLook.allowance count + 1 := by
  rcases token with ⟨_ | _ | looks⟩
  · rfl
  · cases hunset
  · exact Nat.succ_min_succ looks count

/-- A look that finds the flag unset moves one item, if there is one, from those that may still be
looked for to those that were. -/
theorem allowance_afterLook (hunset : token.isCancelled = false) (looks count : Nat) :
    min (looks + 1) count + token.afterLook.allowance (count - (looks + 1)) =
      min looks count + token.allowance (count - looks) := by
  by_cases hleft : looks < count
  · have hcount : count - looks = count - (looks + 1) + 1 := by omega
    rw [hcount, allowance_succ hunset]
    omega
  · rw [Nat.sub_eq_zero_of_le (by omega), Nat.sub_eq_zero_of_le (by omega), allowance_zero,
      allowance_zero]
    omega

end CancelToken

/-- One step either notes a failure and leaves the catalog alone, or adds a whole item and notes
nothing. -/
theorem Progress.commit_cases (progress : Progress) (index : Nat)
    (extracted : Except DescriptorError Outcome) :
    (∃ error, progress.commit index extracted =
        ⟨progress.catalog, progress.failures.push ⟨index, error⟩, progress.processed + 1⟩ ∧
        ((∃ complaint, extracted = .error complaint ∧ error = .descriptor complaint) ∨
          ∃ outcome refusal, extracted = .ok outcome ∧
            progress.catalog.rejection? outcome = some refusal ∧ error = .catalog refusal)) ∨
      ∃ outcome, extracted = .ok outcome ∧ progress.catalog.rejection? outcome = none ∧
        progress.commit index extracted =
          ⟨progress.catalog.addAll outcome.entries, progress.failures,
            progress.processed + 1⟩ := by
  cases extracted with
  | error complaint => exact .inl ⟨_, rfl, .inl ⟨complaint, rfl, rfl⟩⟩
  | ok outcome =>
      cases hrejection : progress.catalog.rejection? outcome with
      | none =>
          refine .inr ⟨outcome, rfl, hrejection, ?_⟩
          simp only [commit, Catalog.perform_insert, hrejection]
      | some refusal =>
          refine .inl ⟨_, ?_, .inr ⟨outcome, refusal, rfl, hrejection, rfl⟩⟩
          simp only [commit, Catalog.perform_insert, hrejection]

theorem Progress.processed_commit (progress : Progress) (index : Nat)
    (extracted : Except DescriptorError Outcome) :
    (progress.commit index extracted).processed = progress.processed + 1 := by
  rcases progress.commit_cases index extracted with ⟨_, heq, -⟩ | ⟨_, -, -, heq⟩ <;> rw [heq]

namespace Catalog

theorem ofParts_eq (names : List String) :
    ofParts names = { empty with applicationParts := (ofParts names).applicationParts } := by
  suffices h : ∀ catalog : Catalog,
      catalog = { empty with applicationParts := catalog.applicationParts } →
      names.foldl (fun catalog name => catalog.add (.applicationPart name)) catalog =
        { empty with applicationParts := (names.foldl
          (fun catalog name => catalog.add (.applicationPart name)) catalog).applicationParts } from
    h empty rfl
  induction names with
  | nil => exact fun catalog heq => heq
  | cons name names ih =>
      intro catalog heq
      apply ih
      rw [heq]
      rfl

theorem mem_applicationParts_ofParts (names : List String) (part : String) :
    part ∈ (ofParts names).applicationParts ↔ part ∈ names := by
  suffices h : ∀ catalog : Catalog,
      part ∈ (names.foldl (fun catalog name => catalog.add (.applicationPart name))
        catalog).applicationParts ↔ part ∈ catalog.applicationParts ∨ part ∈ names by
    rw [ofParts, h empty]
    simp [empty]
  induction names with
  | nil => simp
  | cons name names ih =>
      intro catalog
      rw [List.foldl_cons, ih, List.mem_cons, add, Std.ExtTreeSet.mem_insert,
        Std.LawfulEqCmp.compare_eq_iff_eq, eq_comm, or_assoc, or_left_comm]

theorem rows_ofParts (names : List String) (category : Category) :
    (ofParts names).rows category = [] := by
  rw [ofParts_eq]
  cases category <;> rfl

theorem hasInvoker_ofParts (names : List String) (key : MethodKey) :
    (ofParts names).hasInvoker key = false := by
  rw [ofParts_eq]
  exact hasInvoker_empty key

theorem indexed_ofParts (names : List String) : (ofParts names).Indexed := by
  rw [ofParts_eq]
  exact ⟨indexed_empty.position_iff, indexed_empty.owner_iff, indexed_empty.ids_nodup⟩

end Catalog

namespace Pass

variable {pass : Pass}

theorem start_eq_ok {program : Program} {config : Config}
    (hstart : Pass.start program config = .ok pass) :
    config.validate = .ok () ∧ pass.program = program ∧
      pass.catalog = Catalog.ofParts config.applicationParts ∧ pass.token = .fresh ∧
      RuntimeTypes.resolve program config = .ok pass.runtime := by
  rw [start] at hstart
  cases hvalid : config.validate with
  | error problem =>
      rw [hvalid] at hstart
      cases hstart
  | ok _ =>
      cases hresolve : RuntimeTypes.resolve program config with
      | error error =>
          rw [hvalid, hresolve] at hstart
          cases hstart
      | ok runtime =>
          simp only [hvalid, hresolve, pure_eq_ok] at hstart
          subst hstart
          exact ⟨rfl, rfl, rfl, rfl, rfl⟩

theorem advance_of_cancelled {token : CancelToken} (hcancelled : token.isCancelled = true)
    (progress : Progress) (slots : List (Item × Nat)) :
    pass.advance token progress slots = .ok progress := by
  cases slots with
  | nil => rfl
  | cons slot slots =>
      rw [advance, if_pos hcancelled]
      rfl

theorem run_of_cancelled (hcancelled : pass.token.isCancelled = true) (items : List Item) :
    pass.run items = .ok (pass.begin.report items) := by
  rw [run, advance_of_cancelled hcancelled]
  rfl

theorem advance_cons {token : CancelToken} (hunset : token.isCancelled = false)
    (progress : Progress) (item : Item) (index : Nat) (slots : List (Item × Nat)) :
    pass.advance token progress ((item, index) :: slots) =
      pass.extract item >>= fun extracted =>
        pass.advance token.afterLook (progress.commit index extracted) slots := by
  rw [advance, if_neg (by simp [hunset])]

theorem advance_fresh_cons_eq_ok {progress last : Progress} {item : Item} {index : Nat}
    {slots : List (Item × Nat)} :
    pass.advance .fresh progress ((item, index) :: slots) = .ok last ↔
      ∃ extracted, pass.extract item = .ok extracted ∧
        pass.advance .fresh (progress.commit index extracted) slots = .ok last := by
  rw [advance_cons rfl, bind_eq_ok]
  rfl

/-! ### Stops -/

theorem advance_withToken (pass : Pass) (other token : CancelToken) (progress : Progress)
    (slots : List (Item × Nat)) :
    (pass.withToken other).advance token progress slots = pass.advance token progress slots := by
  induction slots generalizing token progress with
  | nil => rfl
  | cons slot slots ih =>
      rw [advance, advance]
      simp only [ih]
      rfl

theorem take_zipIdx {α : Type} (items : List α) (count : Nat) :
    items.zipIdx.take count = (items.take count).zipIdx := by
  apply List.ext_getElem?
  intro position
  rw [List.getElem?_take, List.getElem?_zipIdx, List.getElem?_zipIdx, List.getElem?_take]
  split <;> rfl

/-- Wherever the flag is found set, the items before have been taken as if nobody ever set it. -/
theorem advance_eq_take (token : CancelToken) (progress : Progress) (slots : List (Item × Nat)) :
    pass.advance token progress slots =
      pass.advance .fresh progress (slots.take (token.allowance slots.length)) := by
  induction slots generalizing token progress with
  | nil =>
      rw [List.take_nil]
      rfl
  | cons slot slots ih =>
      cases hcancelled : token.isCancelled with
      | true =>
          rw [advance_of_cancelled hcancelled, CancelToken.allowance_of_isCancelled hcancelled,
            List.take_zero]
          rfl
      | false =>
          rw [List.length_cons, CancelToken.allowance_succ hcancelled, List.take_succ_cons,
            advance_cons hcancelled, advance_cons rfl]
          simp only [ih token.afterLook]
          rfl

theorem advance_of_lasts {token : CancelToken} {slots : List (Item × Nat)}
    (hlasts : token.Lasts slots.length) (progress : Progress) :
    pass.advance token progress slots = pass.advance .fresh progress slots := by
  rw [advance_eq_take, hlasts.take_eq]

/-- A run that is stopped comes to what a whole run over the items before comes to, except that it
tells the number of all items. -/
theorem run_eq_run_prefix (pass : Pass) (items : List Item) :
    pass.run items =
      ((pass.withToken .fresh).run (items.take (pass.token.allowance items.length))).map
        fun report => { report with total := items.length } := by
  rw [run, run, advance_eq_take, List.length_zipIdx, take_zipIdx]
  rw [advance_withToken]
  change _ = Except.map _ (pass.advance .fresh pass.begin _ >>= _)
  cases pass.advance .fresh pass.begin _ <;> rfl

/-- What holds at the beginning and is kept by each step holds when the run is over, of the items
that were taken. -/
theorem run_induction {motive : List Item → Progress → Prop} (hbegin : motive [] pass.begin)
    (hstep : ∀ done item progress extracted, motive done progress →
      pass.extract item = .ok extracted →
      motive (done ++ [item]) (progress.commit done.length extracted))
    {items : List Item} {report : Report} (hrun : pass.run items = .ok report) :
    ∃ progress, report = progress.report items ∧
      motive (items.take (pass.token.allowance items.length)) progress := by
  -- The run from any point on, with the items before it set aside.
  have hadvance : ∀ (rest done : List Item) (progress last : Progress), motive done progress →
      pass.advance .fresh progress (rest.zipIdx done.length) = .ok last →
      motive (done ++ rest) last := by
    intro rest
    induction rest with
    | nil =>
        intro done progress last hmotive hlast
        rw [List.zipIdx_nil, advance, pure_eq_ok] at hlast
        rwa [List.append_nil, ← hlast]
    | cons item rest ih =>
        intro done progress last hmotive hlast
        rw [List.zipIdx_cons, advance_fresh_cons_eq_ok] at hlast
        obtain ⟨extracted, hextract, hlast⟩ := hlast
        have hmore := hstep done item progress extracted hmotive hextract
        have hnext := ih (done ++ [item]) _ last hmore (by simpa using hlast)
        simpa using hnext
  simp only [run, bind_eq_ok, pure_eq_ok] at hrun
  obtain ⟨progress, hlast, rfl⟩ := hrun
  rw [advance_eq_take, List.length_zipIdx, take_zipIdx] at hlast
  exact ⟨progress, rfl, hadvance _ [] pass.begin progress hbegin hlast⟩

/-- A report tells how many items were taken, and so whether the run was stopped before the last. -/
theorem isCancelled_iff_of_run {items : List Item} {report : Report}
    (hrun : pass.run items = .ok report) :
    report.processed = pass.token.allowance items.length ∧ report.total = items.length ∧
      (report.isCancelled = true ↔ ¬pass.token.Lasts items.length) := by
  obtain ⟨progress, rfl, hprocessed⟩ := run_induction
    (motive := fun done progress => progress.processed = done.length) rfl
    (fun done item progress extracted hprocessed _ => by
      rw [Progress.processed_commit, hprocessed, List.length_append, List.length_singleton]) hrun
  have hle := pass.token.allowance_le items.length
  rw [List.length_take_of_le hle] at hprocessed
  refine ⟨hprocessed, rfl, ?_⟩
  rw [← CancelToken.allowance_eq_iff, Report.isCancelled, decide_eq_true_iff]
  change progress.processed < items.length ↔ _
  rw [hprocessed]
  omega

end Pass

/-! ### A small program, with settings and items -/

namespace Sample

/-- Two runtime types, a class that can be a proxy base, and an interface of two methods. -/
def program : Program where
  types := #[⟨.ofInterface "Source", []⟩, ⟨.ofInterface "Call", []⟩, ⟨.ofClass "Base", [⟨0⟩]⟩,
    ⟨.ofInterface "IOrders", [⟨1⟩, ⟨2⟩]⟩]
  members := #[⟨⟨2⟩, "Send", .method ⟨[], [⟨0⟩, ⟨1⟩], none⟩⟩,
    ⟨⟨3⟩, "Place", .method ⟨[], [], none⟩⟩, ⟨⟨3⟩, "Cancel", .method ⟨[], [], none⟩⟩]
  byName := ((((∅ : Std.ExtTreeMap String TypeHandle).insert "Source" ⟨0⟩).insert "Call"
    ⟨1⟩).insert "Base" ⟨2⟩).insert "IOrders" ⟨3⟩

def config : Config := ⟨"Generated", "Send", ⟨"Source", "Call"⟩, ["Orders"], 2⟩

def pass : Pass where
  program := program
  runtime := ⟨"Generated", "Send", ⟨0⟩, ⟨1⟩⟩
  catalog := Catalog.ofParts ["Orders"]
  token := .fresh
  parallelism := 2

def orders : InterfaceItem :=
  ⟨⟨3⟩, "IOrders", [⟨⟨3⟩, ⟨1⟩, "Place"⟩, ⟨⟨3⟩, ⟨2⟩, "Cancel"⟩], ⟨2⟩, false⟩

def ordersDescriptor : InterfaceDescriptor :=
  ⟨orders.type, orders.name, orders.methods, orders.proxyBase, orders.isExtension, "Generated"⟩

/-- The second item wants the id of the first, and the fourth has no proxy base. -/
def items : List Item := [
  .type ⟨⟨2⟩, [], none, some 7, false⟩,
  .type ⟨⟨3⟩, [], none, some 7, false⟩,
  .interface orders,
  .interface ⟨⟨3⟩, "IOrders", [], ⟨3⟩, false⟩,
  .provider ⟨2⟩]

theorem validate_config : config.validate = .ok () :=
  rfl

theorem resolve_config : RuntimeTypes.resolve program config = .ok pass.runtime := by
  have hsource : program.resolve? "Source" = some ⟨0⟩ := by
    simp only [Program.resolve?, program, Std.ExtTreeMap.getElem?_insert]
    decide
  have hcall : program.resolve? "Call" = some ⟨1⟩ := by
    simp only [Program.resolve?, program, Std.ExtTreeMap.getElem?_insert]
    decide
  simp only [RuntimeTypes.resolve, RuntimeTypes.resolveRole, config, hsource, hcall]
  rfl

theorem start_program : Pass.start program config = .ok pass := by
  rw [Pass.start, validate_config, resolve_config]
  rfl

end Sample

end TypeMetadata
