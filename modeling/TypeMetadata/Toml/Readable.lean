import TypeMetadata.Toml.Number
import TypeMetadata.Toml.Value

/-!
Values that can be read. A document may hold numbers that no reader can represent, and does no harm
as long as nobody reads them.
-/

namespace TypeMetadata.Toml

/-- Whether a whole number fits into 128 bits, with or without a sign. -/
def isReadableInteger (number : Int) : Bool :=
  -Int.pow 2 127 ≤ number && number < Int.pow 2 128

mutual

/-- Whether a value can be read: all numbers in it spell a number, and none is too large. -/
def Value.isReadable : Value → Bool
  | .integer number => isReadableInteger number
  | .float spelling => !isTooLargeFloat spelling.toList
  | .unreadable _ => false
  | .array elements => areReadableElements elements
  | .table entries => areReadableEntries entries
  | .string _ | .boolean _ | .dateTime _ => true

def areReadableElements : List Value → Bool
  | [] => true
  | element :: elements => element.isReadable && areReadableElements elements

def areReadableEntries : List (String × Value) → Bool
  | [] => true
  | (_, value) :: entries => value.isReadable && areReadableEntries entries

end

end TypeMetadata.Toml
