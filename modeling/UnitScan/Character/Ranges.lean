/-!
# Code point ranges

A property of characters is given as a table of closed code point ranges in ascending order.
`CodeRanges.covers` looks a code point up and stops at the first range that lies beyond it.
-/

namespace UnitScan

/-- A table of closed code point ranges, each given by its first and its last member. -/
abbrev CodeRanges := List (Nat × Nat)

namespace CodeRanges

/-- Whether a code point lies in one of the ranges. -/
def covers : CodeRanges → Nat → Bool
  | [], _ => false
  | (first, last) :: later, n =>
    if n < first then false else if n ≤ last then true else covers later n

end CodeRanges

end UnitScan
