/-
This file defines sets of code points given as a list of ranges in ascending order.
Membership stops at the first range that begins behind the code point.
-/

namespace Polyglot.Text

/-- Is the code point in one of the ranges, which are inclusive and in ascending order? -/
def inRanges (code : Nat) : List (Nat × Nat) → Bool
  | [] => false
  | (first, last) :: rest =>
    if code < first then false
    else if code ≤ last then true
    else inRanges code rest

end Polyglot.Text
