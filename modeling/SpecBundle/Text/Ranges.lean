/-!
# Ranges of characters

A class of characters is a list of closed ranges of code points.
-/

namespace SpecBundle.Text

/-- Whether one of the closed ranges holds the character. -/
def inRanges (ranges : List (Nat × Nat)) (c : Char) : Bool :=
  ranges.any fun r => r.1 ≤ c.toNat && c.toNat ≤ r.2

end SpecBundle.Text
