/-!
# Ranges of code points

A class of characters is a list of closed ranges.
-/

namespace Chip8.Text

/-- Whether a number lies in one of the ranges. -/
def inRanges (ranges : List (Nat × Nat)) (n : Nat) : Bool :=
  ranges.any fun (first, last) => first ≤ n && n ≤ last

end Chip8.Text
