/-!
# Sets of code points

A set of characters given by the inclusive ranges of its code points, in ascending order.
-/

namespace BusReplay.Text

abbrev CodeRanges := List (Nat × Nat)

def CodeRanges.contains (ranges : CodeRanges) (c : Char) : Bool :=
  ranges.any fun (first, last) ↦ first ≤ c.toNat && c.toNat ≤ last

end BusReplay.Text
