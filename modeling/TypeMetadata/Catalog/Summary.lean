import TypeMetadata.Catalog.Basic

/-!
How much a catalog holds.
-/

namespace TypeMetadata

/-- The number of entries of each category. Serializers, activators and copiers are counted
together as providers. -/
structure Summary where
  serializableTypes : Nat
  interfaces : Nat
  invokers : Nat
  proxies : Nat
  activatableTypes : Nat
  providers : Nat
  aliases : Nat
  wellKnownIds : Nat
  applicationParts : Nat
deriving DecidableEq

def Summary.text (summary : Summary) : String :=
  s!"{summary.serializableTypes} types, {summary.interfaces} interfaces, " ++
    s!"{summary.invokers} invokers, {summary.proxies} proxies, " ++
    s!"{summary.activatableTypes} activatable, {summary.providers} providers, " ++
    s!"{summary.aliases} aliases, {summary.wellKnownIds} ids, " ++
    s!"{summary.applicationParts} parts"

def Catalog.summary (catalog : Catalog) : Summary where
  serializableTypes := catalog.serializableTypes.size
  interfaces := catalog.interfaces.size
  invokers := catalog.invokers.size
  proxies := catalog.proxies.size
  activatableTypes := catalog.activatableTypes.size
  providers := catalog.serializers.size + catalog.activators.size + catalog.copiers.size
  aliases := catalog.aliases.size
  wellKnownIds := catalog.wellKnownIds.size
  applicationParts := catalog.applicationParts.size

end TypeMetadata
