import TypeMetadata.Proofs.Descriptor.Permanence
import TypeMetadata.Proofs.Dispatch.Acceptance
import TypeMetadata.Proofs.Extraction.Reordering

/-!
Runs that never come upon a handle that was not issued. It is enough that the types which the items
are about are declared, and that declarations refer to declared types: whatever else a declaration
or an item holds is only passed on, and complaints look up no more than what is closed under
looking up.
-/

namespace TypeMetadata

/-- The types that have to be looked up for an item are below a bound. Its members and methods are
taken as they are. -/
def Item.RefersBelow (bound : Nat) : Item → Prop
  | .type item => item.type.index < bound
  | .interface item => item.type.index < bound ∧ item.proxyBase.index < bound
  | .provider ty => ty.index < bound

instance (bound : Nat) : (item : Item) → Decidable (item.RefersBelow bound)
  | .type item => inferInstanceAs (Decidable (item.type.index < bound))
  | .interface item =>
    inferInstanceAs (Decidable (item.type.index < bound ∧ item.proxyBase.index < bound))
  | .provider ty => inferInstanceAs (Decidable (ty.index < bound))

namespace Program

variable {program : Program} {runtime : RuntimeTypes}

theorem Closed.extract_answered (hclosed : program.Closed) {item : Item}
    (hitem : item.RefersBelow program.size)
    (hsource : runtime.completionSource.index < program.size)
    (hcall : runtime.invokable.index < program.size) :
    Answered (item.extract program runtime) := by
  have hwell := hclosed.wellFormed
  cases item with
  | type item =>
      have hbuild := hwell.build_answered hitem
        (fun decl base => hclosed.base_lt item.type decl base) runtime item.members
      apply hbuild.bind
      intro built _
      cases built with
      | error error => exact answered_pure _
      | ok descriptor => exact (decl_answered hitem).bind fun _ _ => answered_pure _
  | interface item =>
      obtain ⟨htype, hbase⟩ := hitem
      have hbuild : Answered (InterfaceDescriptor.build program runtime item.type item.name
          item.methods item.proxyBase item.isExtension) := by
        apply (hclosed.membersClosed.checkProxyBase_answered hbase hsource hcall).bind
        intro checked _
        cases checked with
        | error error => exact answered_pure _
        | ok _ => exact (hwell.scopeName_answered htype).bind fun _ _ => answered_pure _
      exact hbuild.bind fun _ _ => answered_pure _
  | provider ty => exact (decl_answered hitem).bind fun _ _ => answered_pure _

end Program

namespace Pass

variable {program : Program} {config : Config} {pass : Pass} {items : List Item}

/-- A pass starts over declared types if the settings are sound and name some of them. -/
theorem start_of_declareAll {history : List Declaration}
    (hdeclare : Program.empty.declareAll history = .ok program) (hsize : program.size ≤ UInt32.size)
    (hvalid : config.validate = .ok ()) {source call : TypeHandle}
    (hsource : program.IsLatest config.runtimeNames.completionSource source)
    (hcall : program.IsLatest config.runtimeNames.invokable call) :
    Pass.start program config =
      .ok ⟨program, ⟨config.namespaceRoot, config.dispatchMethod, source, call⟩,
        Catalog.ofParts config.applicationParts, .fresh, config.parallelism⟩ := by
  have hlatest := Program.leadsToLatest_of_declareAll hdeclare hsize
  have hresolve : RuntimeTypes.resolve program config =
      .ok ⟨config.namespaceRoot, config.dispatchMethod, source, call⟩ :=
    RuntimeTypes.resolve_eq_ok_iff.mpr
      ⟨(hlatest _ _).mpr hsource, (hlatest _ _).mpr hcall, rfl, rfl⟩
  rw [start, hvalid, hresolve]
  rfl

theorem run_answered (hextract : ∀ item ∈ items, Answered (pass.extract item))
    (token : CancelToken) : Answered ((pass.withToken token).run items) := by
  refine (run_isOk_iff (pass.withToken token) items).mpr ?_
  intro item hitem
  exact hextract item (List.mem_of_mem_take hitem)

/-- A pass over declared types always comes to a report, alone or with a crew, whatever handles
there are in places where they are only passed on. -/
theorem every_lookup_answered {history : List Declaration}
    (hdeclare : Program.empty.declareAll history = .ok program) (hsize : program.size ≤ UInt32.size)
    (hrefers : ∀ declaration ∈ history, declaration.RefersBelow program.size)
    (hstart : Pass.start program config = .ok pass)
    (hitems : ∀ item ∈ items, item.RefersBelow program.size) (token : CancelToken) :
    (∀ item ∈ items, Answered (pass.extract item)) ∧
      Answered ((pass.withToken token).run items) ∧
      (∀ cores, Answered ((pass.withToken token).runParallel cores items)) ∧
      ∀ workers schedule, 0 < workers →
        ((Crew.start token workers).follow pass.extract items.toArray schedule).isFinished = true →
          Answered ((pass.withToken token).runScheduled workers schedule items) := by
  have hclosed := Program.closed_of_declareAll hdeclare hsize hrefers
  obtain ⟨-, rfl, -, -, hresolve⟩ := start_eq_ok hstart
  obtain ⟨hsource, hcall, -, -⟩ := RuntimeTypes.resolve_eq_ok_iff.mp hresolve
  have hextract : ∀ item ∈ items, Answered (pass.extract item) := by
    intro item hitem
    exact hclosed.extract_answered (hitems item hitem) (hclosed.named_lt _ _ hsource)
      (hclosed.named_lt _ _ hcall)
  have hrun := run_answered hextract token
  refine ⟨hextract, hrun, ?_, ?_⟩
  · intro cores
    rw [runParallel_eq]
    exact hrun
  · intro workers schedule hworkers hfinished
    have hcrew : (pass.withToken token).runScheduled workers schedule items =
        (pass.withToken token).run items := runScheduled_eq hworkers hfinished
    rw [hcrew]
    exact hrun

end Pass

/-! ### Stray handles -/

namespace Stray

/-- A proxy base without an entry point, and an enumeration that stands in it. No type has the
handle of the values, of the hook, of the field, nor of what the method gives back. -/
def history : List Declaration := [
  .type (.ofInterface "Source"),
  .type (.ofInterface "Call"),
  .type (.ofClass "Base"),
  .type (((TypeDecl.ofEnumeration "Kind" ⟨99⟩).withCapability .serializationCallbacks
    [.type ⟨99⟩]).nestedIn ⟨2⟩),
  .member ⟨2⟩ ⟨"Send", .field ⟨99⟩⟩,
  .member ⟨2⟩ ⟨"Send", .method ⟨[], [⟨3⟩], some ⟨99⟩⟩⟩]

def program : Program :=
  (Program.empty.declareAll history).toOption.getD .empty

def config : Config := ⟨"Generated", "Send", ⟨"Source", "Call"⟩, [], 2⟩

def pass : Pass := ⟨program, ⟨"Generated", "Send", ⟨0⟩, ⟨1⟩⟩, Catalog.ofParts [], .fresh, 2⟩

def items : List Item := [
  .interface ⟨⟨0⟩, "Source", [⟨⟨99⟩, ⟨99⟩, "Send"⟩], ⟨2⟩, false⟩,
  .type ⟨⟨3⟩, [⟨"value", ⟨99⟩, ⟨99⟩, 0⟩], none, none, false⟩,
  .provider ⟨1⟩]

theorem declareAll_history : Program.empty.declareAll history = .ok program :=
  rfl

theorem start_program : Pass.start program config = .ok pass :=
  Pass.start_of_declareAll declareAll_history (by decide) rfl (by decide +kernel)
    (by decide +kernel)

end Stray

theorem Pass.every_lookup_answered_of_stray :
    Program.empty.declareAll Stray.history = .ok Stray.program ∧
      Stray.program.size ≤ UInt32.size ∧
      (∀ declaration ∈ Stray.history, declaration.RefersBelow Stray.program.size) ∧
      Pass.start Stray.program Stray.config = .ok Stray.pass ∧
      (∀ item ∈ Stray.items, item.RefersBelow Stray.program.size) ∧
      Answered ((Stray.pass.withToken .fresh).run Stray.items) := by
  have hsize : Stray.program.size ≤ UInt32.size := by decide
  have hrefers : ∀ declaration ∈ Stray.history, declaration.RefersBelow Stray.program.size := by
    decide
  have hitems : ∀ item ∈ Stray.items, item.RefersBelow Stray.program.size := by decide
  refine ⟨Stray.declareAll_history, hsize, hrefers, Stray.start_program, hitems, ?_⟩
  exact (every_lookup_answered Stray.declareAll_history hsize hrefers Stray.start_program hitems
    .fresh).2.1

end TypeMetadata
