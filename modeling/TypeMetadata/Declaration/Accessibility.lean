/-!
Who may see a declaration, ordered from the fewest to the most.
-/

namespace TypeMetadata

inductive Accessibility
  | owner
  /-- Types of the same assembly that derive from the declaring type. -/
  | derivedAndAssembly
  | derived
  | assembly
  /-- Types of the same assembly and types that derive from the declaring type. -/
  | derivedOrAssembly
  | everyone
deriving DecidableEq

namespace Accessibility

/-- The place of an accessibility in the order from the most to the least restrictive. -/
def rank : Accessibility → Nat
  | owner => 0
  | derivedAndAssembly => 1
  | derived => 2
  | assembly => 3
  | derivedOrAssembly => 4
  | everyone => 5

instance : LE Accessibility := ⟨fun a b => a.rank ≤ b.rank⟩

instance : LT Accessibility := ⟨fun a b => a.rank < b.rank⟩

instance (a b : Accessibility) : Decidable (a ≤ b) :=
  inferInstanceAs (Decidable (a.rank ≤ b.rank))

instance (a b : Accessibility) : Decidable (a < b) :=
  inferInstanceAs (Decidable (a.rank < b.rank))

def restrict (a b : Accessibility) : Accessibility :=
  if a ≤ b then a else b

def text : Accessibility → String
  | owner => "private"
  | derivedAndAssembly => "private protected"
  | derived => "protected"
  | assembly => "internal"
  | derivedOrAssembly => "protected internal"
  | everyone => "public"

end Accessibility

end TypeMetadata
