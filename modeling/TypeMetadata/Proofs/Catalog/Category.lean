import TypeMetadata.Extraction.Insertion

/-!
The categories of a catalog under one name. An entry adds one row to one category, so what a run
of entries adds to a category can be said for all categories at once.
-/

namespace TypeMetadata

/-- The categories that keep their rows in order of discovery. -/
inductive Category
  | serializableTypes
  | interfaces
  | invokers
  | proxies
  | activatableTypes
  | serializers
  | activators
  | copiers
  | aliases
  | wellKnownIds

abbrev Category.Row : Category → Type
  | serializableTypes => TypeDescriptor
  | interfaces => InterfaceDescriptor
  | invokers => InvokerDescriptor
  | proxies => ProxyDescriptor
  | activatableTypes => TypeDescriptor
  | serializers => TypeHandle
  | activators => TypeHandle
  | copiers => TypeHandle
  | aliases => TypeHandle × String
  | wellKnownIds => TypeHandle × UInt32

def Entry.row? : Entry → (category : Category) → Option category.Row
  | .serializableType descriptor, .serializableTypes => some descriptor
  | .interface descriptor, .interfaces => some descriptor
  | .invoker descriptor, .invokers => some descriptor
  | .proxy descriptor, .proxies => some descriptor
  | .activatableType descriptor, .activatableTypes => some descriptor
  | .serializer type, .serializers => some type
  | .activator type, .activators => some type
  | .copier type, .copiers => some type
  | .typeAlias type name, .aliases => some (type, name)
  | .wellKnownId type id, .wellKnownIds => some (type, id)
  | _, _ => none

/-- The application part that an entry names. Application parts are a set and keep no order. -/
def Entry.part? : Entry → Option String
  | .applicationPart name => some name
  | _ => none

namespace Catalog

def rows (catalog : Catalog) : (category : Category) → List category.Row
  | .serializableTypes => catalog.serializableTypes.toList
  | .interfaces => catalog.interfaces.toList
  | .invokers => catalog.invokers.toList
  | .proxies => catalog.proxies.toList
  | .activatableTypes => catalog.activatableTypes.toList
  | .serializers => catalog.serializers.toList
  | .activators => catalog.activators.toList
  | .copiers => catalog.copiers.toList
  | .aliases => catalog.aliases.toList
  | .wellKnownIds => catalog.wellKnownIds.toList

/-- The catalog with entries added one after another. -/
def addAll (catalog : Catalog) (entries : List Entry) : Catalog :=
  entries.foldl add catalog

@[simp] theorem addAll_nil (catalog : Catalog) : catalog.addAll [] = catalog :=
  rfl

@[simp] theorem addAll_cons (catalog : Catalog) (entry : Entry) (entries : List Entry) :
    catalog.addAll (entry :: entries) = (catalog.add entry).addAll entries :=
  rfl

@[simp] theorem rows_empty (category : Category) : empty.rows category = [] := by
  cases category <;> rfl

theorem rows_add (catalog : Catalog) (entry : Entry) (category : Category) :
    (catalog.add entry).rows category =
      catalog.rows category ++ (entry.row? category).toList := by
  cases entry <;> cases category <;> simp [add, rows, Entry.row?]

theorem applicationParts_add (catalog : Catalog) (entry : Entry) :
    (catalog.add entry).applicationParts =
      entry.part?.elim catalog.applicationParts catalog.applicationParts.insert := by
  cases entry <;> rfl

/-- Entries add their rows to each category in order, and change nothing else of it. -/
theorem rows_addAll (catalog : Catalog) (entries : List Entry) (category : Category) :
    (catalog.addAll entries).rows category =
      catalog.rows category ++ entries.filterMap (·.row? category) := by
  induction entries generalizing catalog with
  | nil => simp
  | cons entry entries ih =>
      rw [addAll_cons, ih, rows_add, List.append_assoc, List.filterMap_cons]
      cases entry.row? category <;> rfl

end Catalog

/-! ### What an item adds to each category -/

def Outcome.rows : Outcome → (category : Category) → List category.Row
  | .type descriptor _ _, .serializableTypes => [descriptor]
  | .type descriptor item _, .activatableTypes => if item.isActivatable then [descriptor] else []
  | .type descriptor item _, .aliases => (item.alternateName.map (descriptor.type, ·)).toList
  | .type descriptor item _, .wellKnownIds => (item.wellKnownId.map (descriptor.type, ·)).toList
  | .type descriptor _ providers, .serializers =>
    if providers.serializer then [descriptor.type] else []
  | .type descriptor _ providers, .activators =>
    if providers.activator then [descriptor.type] else []
  | .type descriptor _ providers, .copiers => if providers.copier then [descriptor.type] else []
  | .interface descriptor, .interfaces => [descriptor]
  | .interface descriptor, .proxies => [descriptor.proxy]
  | .interface descriptor, .invokers => descriptor.invokers
  | .provider ty providers, .serializers => if providers.serializer then [ty] else []
  | .provider ty providers, .activators => if providers.activator then [ty] else []
  | .provider ty providers, .copiers => if providers.copier then [ty] else []
  | _, _ => []

theorem Providers.filterMap_row?_entries (providers : Providers) (ty : TypeHandle)
    (category : Category) :
    (providers.entries ty).filterMap (·.row? category) =
      (Outcome.provider ty providers).rows category := by
  cases category <;>
    simp [Providers.entries, Outcome.rows, Entry.row?, apply_ite (List.filterMap _)]

theorem Outcome.filterMap_row?_entries (outcome : Outcome) (category : Category) :
    outcome.entries.filterMap (·.row? category) = outcome.rows category := by
  cases outcome with
  | type descriptor item providers =>
      rw [Outcome.entries]
      simp only [List.filterMap_append, Providers.filterMap_row?_entries]
      cases halias : item.alternateName <;> cases hid : item.wellKnownId <;> cases category <;>
        simp [Outcome.rows, Entry.row?, apply_ite (List.filterMap _), halias, hid]
  | interface descriptor =>
      rw [Outcome.entries]
      simp only [List.filterMap_append, List.filterMap_cons, List.filterMap_map]
      cases category <;> simp [Outcome.rows, Entry.row?, Function.comp_def]
  | provider ty providers => exact Providers.filterMap_row?_entries providers ty category

theorem Catalog.rows_addAll_entries (catalog : Catalog) (outcome : Outcome) (category : Category) :
    (catalog.addAll outcome.entries).rows category =
      catalog.rows category ++ outcome.rows category := by
  rw [rows_addAll, Outcome.filterMap_row?_entries]

end TypeMetadata
