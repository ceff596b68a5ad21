/-!
Sets of code points, written as the closed ranges they consist of.
-/

namespace TypeMetadata.Text

/-- Closed ranges of code points. A table lists them in ascending order without overlap. -/
abbrev CodeRanges := List (Nat × Nat)

/-- Whether one of the ranges holds the code point. The search ends at the first range that
starts above it, which is sound because the ranges ascend. -/
def CodeRanges.covers : CodeRanges → Nat → Bool
  | [], _ => false
  | (first, last) :: rest, n => first ≤ n && (n ≤ last || CodeRanges.covers rest n)

end TypeMetadata.Text
