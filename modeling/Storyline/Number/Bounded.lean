/-! Whole numbers held inside the signed 64-bit range. Sums and differences stop at its ends. -/
namespace Storyline.Bounded

def least : Int := -9223372036854775808

def greatest : Int := 9223372036854775807

def greatestWord : Nat := 18446744073709551615

def InRange (n : Int) : Prop := least ≤ n ∧ n ≤ greatest

instance (n : Int) : Decidable (InRange n) := inferInstanceAs (Decidable (_ ∧ _))

def clamp (n : Int) : Int := max least (min greatest n)

def add (a b : Int) : Int := clamp (a + b)

def sub (a b : Int) : Int := clamp (a - b)

theorem clamp_inRange (n : Int) : InRange (clamp n) := by
  unfold InRange clamp least greatest; omega

/-- Shares of a hundred, standings and their differences are far from the ends. -/
theorem inRange_of_small {n : Int} (small : -1000 ≤ n ∧ n ≤ 1000) : InRange n := by
  unfold InRange least greatest; omega

theorem clamp_of_inRange {n : Int} (h : InRange n) : clamp n = n := by
  unfold InRange least greatest at h; unfold clamp least greatest; omega

end Storyline.Bounded
