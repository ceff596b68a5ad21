import Std.Data.ExtTreeSet
import TypeMetadata.Identifier.Reserved

/-!
Handing out identifiers that are unique within one scope of generated code.
-/

namespace TypeMetadata.Identifier

structure Allocator where
  used : Std.ExtTreeSet String

namespace Allocator

def empty : Allocator := ⟨∅⟩

def isUsed (allocator : Allocator) (ident : String) : Bool :=
  allocator.used.contains ident

def claim (allocator : Allocator) (ident : String) : Allocator :=
  ⟨allocator.used.insert ident⟩

/-- Take the escaped form of a name as it stands. The answer says whether it was still free. -/
def reserve (allocator : Allocator) (name : String) : Bool × Allocator :=
  let ident := escape name
  (!allocator.isUsed ident, allocator.claim ident)

def suffixed (name : String) (count : Nat) : String :=
  s!"{name}_{count}"

/-- The spellings that are tried for a name, in order: its escaped form first, then its suffixed
forms. -/
def candidate (name : String) : Nat → String
  | 0 => escape name
  | count + 1 => escape (suffixed name (count + 1))

/-- The first candidate at or after a position that is free, if one of the next `tries` is, and
otherwise the one after those. -/
def firstFree (allocator : Allocator) (name : String) : (tries position : Nat) → String
  | 0, position => candidate name position
  | tries + 1, position =>
    if allocator.isUsed (candidate name position) then
      firstFree allocator name tries (position + 1)
    else
      candidate name position

/-- Take the first free candidate of a name. The candidates all differ, so among one more of them
than there are taken identifiers one is free, and that many tries are enough. -/
def allocate (allocator : Allocator) (name : String) : String × Allocator :=
  let ident := allocator.firstFree name allocator.used.size 0
  (ident, allocator.claim ident)

def allocateAll (allocator : Allocator) : List String → List String × Allocator
  | [] => ([], allocator)
  | name :: names =>
    let (ident, next) := allocator.allocate name
    let (idents, last) := next.allocateAll names
    (ident :: idents, last)

end Allocator

end TypeMetadata.Identifier
