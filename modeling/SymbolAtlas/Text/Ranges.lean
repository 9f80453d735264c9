/-!
# Ranges of characters

Properties of characters are tables of closed ranges of code points.
-/

namespace SymbolAtlas.Text

/-- The character lies in one of the ranges. -/
def inRanges (ranges : List (Nat × Nat)) (c : Char) : Bool :=
  ranges.any fun r => r.1 ≤ c.toNat && c.toNat ≤ r.2

end SymbolAtlas.Text
