import Storyline.Number.Rounding

/-!
How far rounding takes a number away. The bounds are coarse: a number that is kept to two binary
digits or more grows by half of itself at most.
-/
namespace Storyline.Rounding

theorem halfEven_le (num den : Nat) : halfEven num den ≤ num / den + 1 := by
  unfold halfEven
  dsimp only
  split
  · omega
  · split
    · omega
    · split <;> omega

theorem halfEven_one (num : Nat) : halfEven num 1 = num := by
  simp [halfEven, Nat.mod_one]

theorem halfEven_mul_le (num den : Nat) : halfEven num den * den ≤ num + den := by
  have product := Nat.mul_le_mul_right den (halfEven_le num den)
  have whole := Nat.div_mul_le_self num den
  rw [Nat.add_mul, Nat.one_mul] at product
  omega

theorem toLeadingBits_le {digits : Nat} (some_kept : 2 ≤ digits) (n : Nat) :
    2 * toLeadingBits digits n ≤ 3 * n := by
  unfold toLeadingBits
  dsimp only
  cases excess : n.log2 + 1 - digits with
  | zero =>
    rw [show Nat.pow 2 0 = 1 from rfl, halfEven_one]
    omega
  | succ k =>
    -- twice the unit of the last digit kept is no more than the number itself
    have positive : n ≠ 0 := by
      rintro rfl
      simp at excess
      omega
    have unit : 2 * Nat.pow 2 (k + 1) ≤ n := by
      calc 2 * Nat.pow 2 (k + 1) = 2 ^ (k + 2) := by rw [Nat.pow_eq, Nat.pow_succ 2 (k + 1)]; omega
        _ ≤ 2 ^ n.log2 := Nat.pow_le_pow_right (by decide) (by omega)
        _ ≤ n := Nat.log2_self_le positive
    have rounded := halfEven_mul_le n (Nat.pow 2 (k + 1))
    omega

theorem halfUp_le {num den bound : Nat} (positive : 0 < den) (fits : num ≤ bound * den) :
    halfUp num den ≤ bound := by
  unfold halfUp
  rw [← Nat.lt_add_one_iff, Nat.div_lt_iff_lt_mul (by omega)]
  have whole : (bound + 1) * (2 * den) = 2 * (bound * den) + 2 * den := by
    rw [Nat.add_mul, Nat.mul_left_comm]
    omega
  omega

end Storyline.Rounding
