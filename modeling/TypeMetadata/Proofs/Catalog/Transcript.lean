import TypeMetadata.Proofs.Catalog.History

/-!
Everything that a catalog answers can be read off what is written of it. The indexes are not
written, but two catalogs of which the same is written answer all later requests alike, however each
of them came about.
-/

namespace TypeMetadata

/-- What is written of a catalog: everything but the two indexes. -/
structure Dump where
  rows : (category : Category) → List category.Row
  applicationParts : List String

/-- What can be asked of a catalog. The look-ups take a method with its name. -/
inductive Request
  | record (entry : Entry)
  | hasInvoker (method : MethodDescriptor)
  | invoker (method : MethodDescriptor)
  | hasWellKnownId (id : UInt32)

inductive Answer
  | recorded (result : Except CatalogError Bool)
  | presence (isPresent : Bool)
  | invoker (found : Option InvokerDescriptor)

namespace Catalog

variable {first second : Catalog}

def dump (catalog : Catalog) : Dump :=
  ⟨catalog.rows, catalog.applicationParts.toList⟩

def answer (catalog : Catalog) : Request → Answer
  | .record entry => .recorded (catalog.perform entry.record).1
  | .hasInvoker method => .presence (catalog.hasInvoker method.key)
  | .invoker method => .invoker (catalog.invoker? method.key)
  | .hasWellKnownId id => .presence (catalog.hasWellKnownId id)

def after (catalog : Catalog) : Request → Catalog
  | .record entry => catalog.offer entry
  | _ => catalog

/-- The answers to requests made one after another, each with what is written of the catalog from
then on. -/
def transcript (catalog : Catalog) : List Request → List (Answer × Dump)
  | [] => []
  | request :: requests =>
    (catalog.answer request, (catalog.after request).dump) ::
      (catalog.after request).transcript requests

theorem dump_eq_iff : first.dump = second.dump ↔
    (∀ category, first.rows category = second.rows category) ∧
      first.applicationParts = second.applicationParts := by
  rw [dump, dump, Dump.mk.injEq, Std.ExtTreeSet.toList_inj, funext_iff]

/-- Two catalogs of which the same is written, each with indexes that agree with its rows. -/
structure LookAlike (first second : Catalog) : Prop where
  first_indexed : first.Indexed
  second_indexed : second.Indexed
  dump_eq : first.dump = second.dump

namespace LookAlike

theorem invoker?_eq (halike : LookAlike first second) (key : MethodKey) :
    first.invoker? key = second.invoker? key := by
  apply Option.ext
  intro invoker
  rw [halike.first_indexed.invoker?_eq_some_iff, halike.second_indexed.invoker?_eq_some_iff,
    (dump_eq_iff.mp halike.dump_eq).1]

theorem hasInvoker_eq (halike : LookAlike first second) (key : MethodKey) :
    first.hasInvoker key = second.hasInvoker key := by
  rw [← halike.first_indexed.isSome_invoker?, ← halike.second_indexed.isSome_invoker?,
    halike.invoker?_eq]

theorem getElem?_wellKnownIndex_eq (halike : LookAlike first second) (id : UInt32) :
    first.wellKnownIndex[id]? = second.wellKnownIndex[id]? := by
  apply Option.ext
  intro ty
  rw [halike.first_indexed.owner_iff, halike.second_indexed.owner_iff,
    (dump_eq_iff.mp halike.dump_eq).1]

theorem refusal?_eq (halike : LookAlike first second) (entry : Entry) :
    first.refusal? entry = second.refusal? entry := by
  cases entry with
  | invoker descriptor => rw [refusal?, refusal?, halike.hasInvoker_eq]
  | wellKnownId ty id => rw [refusal?, refusal?, halike.getElem?_wellKnownIndex_eq]
  | _ => rfl

theorem holds_eq (halike : LookAlike first second) (entry : Entry) :
    first.holds entry = second.holds entry := by
  cases entry with
  | applicationPart name => rw [holds, holds, (dump_eq_iff.mp halike.dump_eq).2]
  | _ => rfl

theorem answer_eq (halike : LookAlike first second) (request : Request) :
    first.answer request = second.answer request := by
  cases request with
  | record entry =>
      rw [answer, answer, perform_record, perform_record, halike.refusal?_eq, halike.holds_eq]
      cases second.refusal? entry <;> rfl
  | hasInvoker method => rw [answer, answer, halike.hasInvoker_eq]
  | invoker method => rw [answer, answer, halike.invoker?_eq]
  | hasWellKnownId id =>
      rw [answer, answer, hasWellKnownId, hasWellKnownId,
        Std.ExtHashMap.contains_eq_isSome_getElem?, Std.ExtHashMap.contains_eq_isSome_getElem?,
        halike.getElem?_wellKnownIndex_eq]

theorem add (halike : LookAlike first second) {entry : Entry}
    (hrefusal : first.refusal? entry = none) : LookAlike (first.add entry) (second.add entry) where
  first_indexed := halike.first_indexed.add hrefusal
  second_indexed := halike.second_indexed.add (halike.refusal?_eq entry ▸ hrefusal)
  dump_eq := by
    obtain ⟨hrows, hparts⟩ := dump_eq_iff.mp halike.dump_eq
    refine dump_eq_iff.mpr ⟨?_, ?_⟩
    · intro category
      rw [rows_add, rows_add, hrows]
    · rw [applicationParts_add, applicationParts_add, hparts]

theorem after (halike : LookAlike first second) (request : Request) :
    LookAlike (first.after request) (second.after request) := by
  cases request with
  | record entry =>
      change LookAlike (first.offer entry) (second.offer entry)
      cases hrefusal : first.refusal? entry with
      | none =>
          rw [offer_of_admitted hrefusal,
            offer_of_admitted (halike.refusal?_eq entry ▸ hrefusal)]
          exact halike.add hrefusal
      | some error =>
          rw [offer_of_refused hrefusal, offer_of_refused (halike.refusal?_eq entry ▸ hrefusal)]
          exact halike
  | _ => exact halike

theorem transcript_eq (halike : LookAlike first second) (requests : List Request) :
    first.transcript requests = second.transcript requests := by
  induction requests generalizing first second with
  | nil => rfl
  | cons request requests ih =>
      rw [transcript, transcript, halike.answer_eq, (halike.after request).dump_eq,
        ih (halike.after request)]

end LookAlike

/-- Catalogs of which the same is written cannot be told apart by anything that is asked of them
later, whatever was offered to each of them before. -/
theorem transcript_eq_of_dump_eq {history other : List Entry}
    (hdump : (empty.offerAll history).dump = (empty.offerAll other).dump)
    (requests : List Request) :
    (empty.offerAll history).transcript requests = (empty.offerAll other).transcript requests := by
  have halike : LookAlike (empty.offerAll history) (empty.offerAll other) :=
    ⟨indexed_empty.offerAll history, indexed_empty.offerAll other, hdump⟩
  exact halike.transcript_eq requests

def place : InvokerDescriptor :=
  ⟨⟨⟨1⟩, ⟨7⟩, "Place"⟩, "Invokable_IOrders_Place_0", "Generated"⟩

/-- The same method under another name. -/
def placeAgain : InvokerDescriptor :=
  ⟨⟨⟨1⟩, ⟨7⟩, "PlaceAsync"⟩, "Invokable_IOrders_PlaceAsync_1", "Generated"⟩

def undisputedHistory : List Entry :=
  [.typeAlias ⟨1⟩ "order", .wellKnownId ⟨1⟩ 7, .invoker place]

/-- The same entries in another order, and two more that are refused. -/
def disputedHistory : List Entry := [
  .wellKnownId ⟨1⟩ 7, .invoker place, .wellKnownId ⟨2⟩ 7, .invoker placeAgain,
  .typeAlias ⟨1⟩ "order"]

theorem transcript_of_disputedHistory :
    (empty.offerAll disputedHistory).dump = (empty.offerAll undisputedHistory).dump ∧
      (empty.offerAll disputedHistory).transcript
          [.record (.invoker placeAgain), .invoker placeAgain.method] =
        (empty.offerAll undisputedHistory).transcript
          [.record (.invoker placeAgain), .invoker placeAgain.method] ∧
      (empty.offerAll disputedHistory).answer (.record (.invoker placeAgain)) =
        .recorded (.error (.duplicateInvoker "PlaceAsync")) := by
  have hdump : (empty.offerAll disputedHistory).dump =
      (empty.offerAll undisputedHistory).dump := by
    simp [disputedHistory, undisputedHistory, offerAll, offer, perform_record, refusal?,
      hasInvoker, add, empty, place, placeAgain, InvokerDescriptor.key, MethodDescriptor.key]
  refine ⟨hdump, transcript_eq_of_dump_eq hdump _, ?_⟩
  rw [answer, Answer.recorded.injEq, perform_record_eq_error_iff, refusal?_invoker_offerAll_iff]
  exact ⟨⟨place, by simp [disputedHistory], rfl⟩, rfl⟩

end Catalog

end TypeMetadata
