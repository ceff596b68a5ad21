import TypeMetadata.Config.Basic
import TypeMetadata.Toml.Readable

/-!
Settings as a table: the keys under which they are written, and how a table is read back. Every key
may be left out, and keys that no setting has are passed over.
-/

namespace TypeMetadata

open Toml (Table Value)

def textOr (default : String) : Option Value → Option String
  | none => some default
  | some (.string text) => some text
  | some _ => none

namespace RuntimeNames

def toTable (names : RuntimeNames) : Table := [
  ("response-completion-source", .string names.completionSource),
  ("invokable", .string names.invokable)]

/-- The names that a value gives: a table by its keys, an array by the order of its elements, and a
point in time none at all. -/
def ofValue? : Value → Option RuntimeNames
  | .table entries => do
    let completionSource ←
      textOr default.completionSource (entries.lookup "response-completion-source")
    let invokable ← textOr default.invokable (entries.lookup "invokable")
    return ⟨completionSource, invokable⟩
  | .array elements => do
    let completionSource ← textOr default.completionSource elements[0]?
    let invokable ← textOr default.invokable elements[1]?
    return ⟨completionSource, invokable⟩
  | .dateTime _ => some default
  | _ => none

end RuntimeNames

def texts? : Value → Option (List String)
  | .array elements => elements.mapM fun
    | .string text => some text
    | _ => none
  | _ => none

def count? : Value → Option UInt64
  | .integer number =>
    if 0 ≤ number ∧ number < UInt64.size then some (UInt64.ofNat number.toNat) else none
  | _ => none

namespace Config

/-- The settings as a table. Application parts are written only if there are any. -/
def toTable (config : Config) : Table := [
    ("namespace-root", .string config.namespaceRoot),
    ("dispatch-method", .string config.dispatchMethod),
    ("well-known", .table config.runtimeNames.toTable)] ++
  (if config.applicationParts.isEmpty then []
    else [("application-parts", .array (config.applicationParts.map .string))]) ++
  [("parallelism", .integer config.parallelism.toNat)]

/-- Whether everything in a table can be read that is read for the sake of settings. That is all of
it, even what no setting has, except what follows the names in an array of names. -/
def isReadable (table : Table) : Bool :=
  table.all fun
    | ("well-known", .array elements) => Toml.areReadableElements (elements.take 2)
    | (_, value) => value.isReadable

def ofTable? (table : Table) : Option Config := do
  let namespaceRoot ← textOr default.namespaceRoot (table.lookup "namespace-root")
  let dispatchMethod ← textOr default.dispatchMethod (table.lookup "dispatch-method")
  let runtimeNames ← ((table.lookup "well-known").map RuntimeNames.ofValue?).getD
    (some default.runtimeNames)
  let applicationParts ← ((table.lookup "application-parts").map texts?).getD
    (some default.applicationParts)
  let parallelism ← ((table.lookup "parallelism").map count?).getD (some default.parallelism)
  return { namespaceRoot, dispatchMethod, runtimeNames, applicationParts, parallelism }

end Config

end TypeMetadata
