/-!
# Sets of code points

A property of characters that a standard lists is a list of ranges of code
points, both ends included.
-/

namespace ClusterPorts.Text

/-- Whether a character's code point lies in one of the ranges. -/
def inRanges (ranges : List (Nat × Nat)) (c : Char) : Bool :=
  ranges.any fun (low, high) => low ≤ c.toNat && c.toNat ≤ high

@[simp] theorem inRanges_nil (c : Char) : inRanges [] c = false := rfl

end ClusterPorts.Text
