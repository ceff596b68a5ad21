import TypeMetadata.Identifier.Allocator

/-!
One identifier for each name of a list, such that no two are equal and as many names as possible
keep their spelling.
-/

namespace TypeMetadata.Identifier

abbrev Slot := String × Nat

def isFirstOccurrence (names : List String) (slot : Slot) : Bool :=
  !(names.take slot.2).contains slot.1

/-- The slots of a list in the order in which they take their identifiers. The first occurrences
of plain names come first, so that these keep their spelling; then the first occurrences of
reserved names; then all repeats, which must make way for both. -/
def allocationOrder (names : List String) : List Slot :=
  let slots := names.zipIdx
  let firsts := slots.filter (isFirstOccurrence names)
  firsts.filter (fun slot => !isReserved slot.1) ++
    firsts.filter (fun slot => isReserved slot.1) ++
    slots.filter (fun slot => !isFirstOccurrence names slot)

/-- The slots of a list with their identifiers, in the order in which they took them. -/
def assignments (names : List String) : List (Slot × String) :=
  let order := allocationOrder names
  order.zip (Allocator.empty.allocateAll (order.map Prod.fst)).1

def allocateUnique (names : List String) : List String :=
  let assigned := assignments names
  names.zipIdx.map fun slot => (assigned.lookup slot).getD slot.1

end TypeMetadata.Identifier
