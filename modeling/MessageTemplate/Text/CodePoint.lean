/-!
# Classes of characters given by ranges of code points

* `inRanges` — membership in a list of closed ranges of code points.

The tables of the other modules of this folder are lists of such ranges, in ascending order.
-/

set_option autoImplicit false

namespace MessageTemplate.Text

/-- A character is in the class when its code point lies in one of the closed ranges. -/
def inRanges (ranges : List (Nat × Nat)) (c : Char) : Bool :=
  ranges.any fun r => r.1 ≤ c.toNat && c.toNat ≤ r.2

end MessageTemplate.Text
