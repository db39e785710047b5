/-! Sets of characters, given as lists of first and last code points. -/
namespace Storyline.Text

def inRanges (ranges : List (Nat × Nat)) (c : Char) : Bool :=
  ranges.any fun r => decide (r.1 ≤ c.toNat) && decide (c.toNat ≤ r.2)

end Storyline.Text
