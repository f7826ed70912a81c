/-!
# Ranges of code points

A set of characters is given by closed ranges of code points.
-/

namespace HackVm.Text

/-- Whether a code point lies in one of some closed ranges. -/
def inRanges (ranges : List (Nat × Nat)) (code : Nat) : Bool :=
  ranges.any fun range => range.1 ≤ code && code ≤ range.2

end HackVm.Text
