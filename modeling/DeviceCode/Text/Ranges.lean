/-!
# Ranges of code points

Classes of characters are given as lists of closed ranges of code points.
-/

namespace DeviceCode.Text

/-- Whether a code point lies in one of these closed ranges. -/
def inRanges (ranges : List (Nat × Nat)) (n : Nat) : Bool :=
  ranges.any fun (lo, hi) => lo ≤ n && n ≤ hi

end DeviceCode.Text
