/-!
# Tables of character ranges

A property of characters is a list of closed ranges of code points in ascending order.
-/

namespace EnvSeed.Text

/-- The code point of `c` lies in one of `ranges`. -/
def inRanges (ranges : List (Nat × Nat)) (c : Char) : Bool :=
  ranges.any fun range => range.1 ≤ c.toNat && c.toNat ≤ range.2

end EnvSeed.Text
