import TypeMetadata.Catalog.Basic
import TypeMetadata.Extraction.Item

/-!
Putting extracted items into the catalog. An item goes in whole or not at all: whatever may be
refused is looked at, or recorded, before anything else of the item is recorded.
-/

namespace TypeMetadata

def Providers.entries (providers : Providers) (type : TypeHandle) : List Entry :=
  (if providers.serializer then [.serializer type] else []) ++
    (if providers.activator then [.activator type] else []) ++
    (if providers.copier then [.copier type] else [])

namespace Outcome

/-- What an item adds to the catalog, in the order in which it is recorded. A well-known id comes
first, since it may be refused. -/
def entries : Outcome → List Entry
  | .type descriptor item providers =>
    (item.wellKnownId.map (Entry.wellKnownId descriptor.type)).toList ++
      (item.alternateName.map (Entry.typeAlias descriptor.type)).toList ++
      providers.entries descriptor.type ++
      (if item.isActivatable then [.activatableType descriptor] else []) ++
      [.serializableType descriptor]
  | .interface descriptor =>
    .proxy descriptor.proxy :: descriptor.invokers.map .invoker ++ [.interface descriptor]
  | .provider ty providers => providers.entries ty

def invokers : Outcome → List InvokerDescriptor
  | .interface descriptor => descriptor.invokers
  | .type _ _ _ => []
  | .provider _ _ => []

end Outcome

namespace Catalog

/-- The first invoker that cannot be added: one for a method that has an invoker, or that was seen
before in the same list. -/
def conflict? (catalog : Catalog) (seen : List MethodKey) :
    List InvokerDescriptor → Option InvokerDescriptor
  | [] => none
  | invoker :: invokers =>
    if catalog.hasInvoker invoker.key || seen.contains invoker.key then some invoker
    else catalog.conflict? (invoker.key :: seen) invokers

end Catalog

def Entry.recordAll : List Entry → CatalogM Unit
  | [] => return ()
  | entry :: entries => do
    let _ ← entry.record
    recordAll entries

/-- Add what an item turned into. All its invokers are looked at before the first entry. -/
def Outcome.insert (outcome : Outcome) : CatalogM Unit := do
  let catalog ← get
  match catalog.conflict? [] outcome.invokers with
  | some invoker => throw (.duplicateInvoker invoker.method.name)
  | none => Entry.recordAll outcome.entries

end TypeMetadata
