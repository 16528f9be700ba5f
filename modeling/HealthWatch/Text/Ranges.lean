/-!
# Ranges of characters

A class of characters is a list of ranges of their numbers, first and last, in ascending order.
-/

namespace HealthWatch.Text

def inRanges (ranges : List (Nat × Nat)) (c : Char) : Bool :=
  ranges.any fun r => r.1 ≤ c.toNat && c.toNat ≤ r.2

end HealthWatch.Text
