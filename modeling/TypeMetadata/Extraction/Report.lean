import TypeMetadata.Catalog.Summary
import TypeMetadata.Config.Load

/-!
What a generation run comes to.
-/

namespace TypeMetadata

/-- Why an item is not in the catalog. -/
inductive ItemError
  | descriptor (error : DescriptorError)
  | catalog (error : CatalogError)
deriving DecidableEq

def ItemError.message : ItemError → String
  | descriptor error => error.message
  | catalog error => error.message

/-- An item that is not in the catalog, by its position in the list of items. -/
structure Failure where
  index : Nat
  error : ItemError
deriving DecidableEq

/-- What a generation run comes to: the catalog with all items that could be added, the others with
their reasons, and how far the run went. -/
structure Report where
  catalog : Catalog
  failures : Array Failure
  processed : Nat
  total : Nat

inductive ExtractionError
  | invalidConfig (problem : ConfigProblem)
  | unresolvedType (error : UnresolvedType)
  | rejectedItem (error : ItemError)
  | cancelled (processed total : Nat)
deriving DecidableEq

def ExtractionError.message : ExtractionError → String
  | invalidConfig problem => problem.complaint
  | unresolvedType error => error.message
  | rejectedItem error => error.message
  | cancelled processed total => s!"extraction cancelled after {processed} of {total} items"

namespace Report

def isCancelled (report : Report) : Bool :=
  report.processed < report.total

def isClean (report : Report) : Bool :=
  report.failures.isEmpty && !report.isCancelled

/-- The catalog, if the run was not cancelled and no item failed. -/
def result (report : Report) : Except ExtractionError Catalog :=
  if report.isCancelled then .error (.cancelled report.processed report.total)
  else
    match report.failures[0]? with
    | some failure => .error (.rejectedItem failure.error)
    | none => .ok report.catalog

end Report

end TypeMetadata
