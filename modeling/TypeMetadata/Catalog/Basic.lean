import Std.Data.ExtHashMap
import Std.Data.ExtTreeSet
import TypeMetadata.Descriptor.InterfaceDescriptor
import TypeMetadata.Descriptor.TypeDescriptor

/-!
The catalog: everything that one generation run has found, each category in order of discovery. Two
indexes tell which methods have an invoker and which well-known ids are given away. Entries are
added and never changed or taken back, and an entry that is refused leaves no trace.
-/

namespace TypeMetadata

/-- Why the catalog does not take an entry. -/
inductive CatalogError
  | duplicateInvoker (name : String)
  | duplicateWellKnownId (id : UInt32) (existing type : TypeHandle)
deriving DecidableEq

def CatalogError.message : CatalogError → String
  | duplicateInvoker name => s!"generated invoker for method '{name}' already registered"
  | duplicateWellKnownId id existing type =>
    s!"well-known type id {id.toNat} already assigned to {existing.text}, " ++
      s!"cannot assign to {type.text}"

/-- Everything that one generation run has found. -/
structure Catalog where
  serializableTypes : Array TypeDescriptor
  interfaces : Array InterfaceDescriptor
  invokers : Array InvokerDescriptor
  proxies : Array ProxyDescriptor
  activatableTypes : Array TypeDescriptor
  serializers : Array TypeHandle
  activators : Array TypeHandle
  copiers : Array TypeHandle
  aliases : Array (TypeHandle × String)
  wellKnownIds : Array (TypeHandle × UInt32)
  applicationParts : Std.ExtTreeSet String
  /-- The position of the invoker of each method that has one. -/
  invokerIndex : Std.ExtHashMap MethodKey Nat
  /-- The type that has each id that is given away. -/
  wellKnownIndex : Std.ExtHashMap UInt32 TypeHandle

namespace Catalog

def empty : Catalog where
  serializableTypes := #[]
  interfaces := #[]
  invokers := #[]
  proxies := #[]
  activatableTypes := #[]
  serializers := #[]
  activators := #[]
  copiers := #[]
  aliases := #[]
  wellKnownIds := #[]
  applicationParts := ∅
  invokerIndex := ∅
  wellKnownIndex := ∅

def hasInvoker (catalog : Catalog) (key : MethodKey) : Bool :=
  catalog.invokerIndex.contains key

def invoker? (catalog : Catalog) (key : MethodKey) : Option InvokerDescriptor :=
  catalog.invokerIndex[key]?.bind fun position => catalog.invokers[position]?

def hasWellKnownId (catalog : Catalog) (id : UInt32) : Bool :=
  catalog.wellKnownIndex.contains id

end Catalog

/-! ### Entries -/

inductive Entry
  | serializableType (descriptor : TypeDescriptor)
  | interface (descriptor : InterfaceDescriptor)
  | invoker (descriptor : InvokerDescriptor)
  | proxy (descriptor : ProxyDescriptor)
  | activatableType (descriptor : TypeDescriptor)
  | serializer (type : TypeHandle)
  | activator (type : TypeHandle)
  | copier (type : TypeHandle)
  | typeAlias (type : TypeHandle) (name : String)
  | wellKnownId (type : TypeHandle) (id : UInt32)
  | applicationPart (name : String)

namespace Catalog

/-- Why the catalog does not take an entry: a second invoker of one method and a second type of one
id are refused, and nothing else is. -/
def refusal? (catalog : Catalog) : Entry → Option CatalogError
  | .invoker descriptor =>
    if catalog.hasInvoker descriptor.key then some (.duplicateInvoker descriptor.method.name)
    else none
  | .wellKnownId type id =>
    catalog.wellKnownIndex[id]?.map fun existing => .duplicateWellKnownId id existing type
  | _ => none

/-- Whether the catalog stays as it is with an entry added: only an application part can be there
already. -/
def holds (catalog : Catalog) : Entry → Bool
  | .applicationPart name => catalog.applicationParts.contains name
  | _ => false

/-- The catalog with one more entry at the end of its category. -/
def add (catalog : Catalog) : Entry → Catalog
  | .serializableType descriptor =>
    { catalog with serializableTypes := catalog.serializableTypes.push descriptor }
  | .interface descriptor =>
    { catalog with interfaces := catalog.interfaces.push descriptor }
  | .invoker descriptor => {
    catalog with
    invokers := catalog.invokers.push descriptor
    invokerIndex := catalog.invokerIndex.insert descriptor.key catalog.invokers.size }
  | .proxy descriptor =>
    { catalog with proxies := catalog.proxies.push descriptor }
  | .activatableType descriptor =>
    { catalog with activatableTypes := catalog.activatableTypes.push descriptor }
  | .serializer type =>
    { catalog with serializers := catalog.serializers.push type }
  | .activator type =>
    { catalog with activators := catalog.activators.push type }
  | .copier type =>
    { catalog with copiers := catalog.copiers.push type }
  | .typeAlias type name =>
    { catalog with aliases := catalog.aliases.push (type, name) }
  | .wellKnownId type id => {
    catalog with
    wellKnownIds := catalog.wellKnownIds.push (type, id)
    wellKnownIndex := catalog.wellKnownIndex.insert id type }
  | .applicationPart name =>
    { catalog with applicationParts := catalog.applicationParts.insert name }

def ofParts (names : List String) : Catalog :=
  names.foldl (fun catalog name => catalog.add (.applicationPart name)) empty

end Catalog

/-- Work on the catalog that the catalog may refuse. What was done before a refusal stays. -/
abbrev CatalogM := ExceptT CatalogError (StateM Catalog)

/-- Add an entry, unless the catalog refuses it. The answer says whether the catalog has grown. -/
def Entry.record (entry : Entry) : CatalogM Bool := do
  let catalog ← get
  match catalog.refusal? entry with
  | some error => throw error
  | none =>
    set (catalog.add entry)
    return !catalog.holds entry

namespace Catalog

def perform {α : Type} (catalog : Catalog) (work : CatalogM α) : Except CatalogError α × Catalog :=
  (ExceptT.run work).run catalog

theorem perform_throw {α : Type} (catalog : Catalog) (error : CatalogError) :
    catalog.perform (throw error : CatalogM α) = (.error error, catalog) :=
  rfl

theorem perform_get_bind {α : Type} (catalog : Catalog) (next : Catalog → CatalogM α) :
    catalog.perform (get >>= next) = catalog.perform (next catalog) :=
  rfl

theorem perform_bind {α β : Type} (catalog : Catalog) (work : CatalogM α)
    (next : α → CatalogM β) :
    catalog.perform (work >>= next) =
      match catalog.perform work with
      | (.ok answer, left) => left.perform (next answer)
      | (.error error, left) => (.error error, left) := by
  unfold perform
  rw [ExceptT.run_bind, StateT.run_bind]
  rcases (ExceptT.run work).run catalog with ⟨error | answer, left⟩ <;> rfl

theorem perform_record (catalog : Catalog) (entry : Entry) :
    catalog.perform entry.record =
      match catalog.refusal? entry with
      | some error => (.error error, catalog)
      | none => (.ok (!catalog.holds entry), catalog.add entry) := by
  rw [Entry.record, perform_get_bind]
  cases catalog.refusal? entry <;> rfl

end Catalog

end TypeMetadata
