import Mathlib.Tactic.Linarith
import Storyline.Proofs.Play.Balance

/-!
The shares of an alignment after a deed. Good and neutral are rounded down and evil takes what is
left of the hundred, so what is cut off the other two goes to evil. After a deed that is good or
neutral this may outweigh what evil lost, but never by more than one. A deed that is evil takes from
good and neutral and gives to evil whatever is cut off.
-/
namespace Storyline.Alignment

def whole (a : Alignment) : Int := a.good + a.neutral + a.evil

/-- What rounding down cuts off good and neutral, in parts of the whole. -/
def cutOff (a : Alignment) : Int := a.good * 100 % a.whole + a.neutral * 100 % a.whole

structure IsDivisible (a : Alignment) : Prop where
  good : 0 ≤ a.good
  neutral : 0 ≤ a.neutral
  evil : 0 ≤ a.evil
  whole : 0 < a.whole

namespace IsDivisible

variable {a : Alignment} (divisible : a.IsDivisible)

include divisible

theorem renormalize_eq : a.renormalize = ⟨a.good * 100 / a.whole, a.neutral * 100 / a.whole,
    100 - a.good * 100 / a.whole - a.neutral * 100 / a.whole⟩ := by
  have good := Int.max_eq_left divisible.good
  have neutral := Int.max_eq_left divisible.neutral
  have evil := Int.max_eq_left divisible.evil
  have some_left : a.good + a.neutral + a.evil ≠ 0 := Int.ne_of_gt divisible.whole
  unfold renormalize
  simp only [good, neutral, evil, if_neg some_left]
  rfl

theorem evil_mul_whole : a.renormalize.evil * a.whole = a.evil * 100 + a.cutOff := by
  have good := Int.mul_ediv_add_emod (a.good * 100) a.whole
  have neutral := Int.mul_ediv_add_emod (a.neutral * 100) a.whole
  have parts : a.whole = a.good + a.neutral + a.evil := rfl
  rw [divisible.renormalize_eq, cutOff]
  linarith

theorem cutOff_lt : a.cutOff < 2 * a.whole := by
  have good := Int.emod_lt_of_pos (a.good * 100) divisible.whole
  have neutral := Int.emod_lt_of_pos (a.neutral * 100) divisible.whole
  unfold cutOff
  omega

theorem good_mul_whole_le : a.renormalize.good * a.whole ≤ a.good * 100 := by
  rw [divisible.renormalize_eq]
  exact Int.ediv_mul_le _ (Int.ne_of_gt divisible.whole)

theorem neutral_mul_whole_le : a.renormalize.neutral * a.whole ≤ a.neutral * 100 := by
  rw [divisible.renormalize_eq]
  exact Int.ediv_mul_le _ (Int.ne_of_gt divisible.whole)

end IsDivisible

structure IsKind (delta : Alignment) : Prop where
  good : 0 ≤ delta.good
  neutral : 0 ≤ delta.neutral
  evil : delta.evil = 0

structure IsWicked (delta : Alignment) : Prop where
  good : delta.good = 0
  neutral : delta.neutral = 0
  evil : 0 < delta.evil

/-- A part of more than one hundred comes to less as a share, unless it is nothing. -/
theorem share_le {share part total : Int} (nonneg : 0 ≤ part) (more : 100 < total)
    (fits : share * total ≤ part * 100) : share ≤ part ∧ (0 < part → share < part) := by
  have positive : 0 < total := by omega
  have less (some_left : 0 < part) : share < part := by
    have grown := Int.mul_lt_mul_of_pos_left more some_left
    exact Int.lt_of_mul_lt_mul_right (Int.lt_of_le_of_lt fits grown) (Int.le_of_lt positive)
  refine ⟨?_, less⟩
  rcases Int.lt_or_eq_of_le nonneg with some_left | rfl
  · exact Int.le_of_lt (less some_left)
  · rw [Int.zero_mul] at fits
    exact Int.le_of_mul_le_mul_right (by rwa [Int.zero_mul]) positive

namespace IsNormalized

variable {a delta : Alignment} (normalized : a.IsNormalized)

include normalized

theorem add_parts (good : 0 ≤ delta.good) (neutral : 0 ≤ delta.neutral) (evil : 0 ≤ delta.evil) :
    (a.good + min delta.good 2 ≤ (a.add delta).good ∧
      (a.add delta).good ≤ a.good + delta.good) ∧
    (a.neutral + min delta.neutral 2 ≤ (a.add delta).neutral ∧
      (a.add delta).neutral ≤ a.neutral + delta.neutral) ∧
    (a.evil + min delta.evil 2 ≤ (a.add delta).evil ∧
      (a.add delta).evil ≤ a.evil + delta.evil) := by
  have counts {n d : Int} (share : 0 ≤ n ∧ n ≤ 100) (more : 0 ≤ d) :
      n + min d 2 ≤ Bounded.add n d ∧ Bounded.add n d ≤ n + d := by
    unfold Bounded.add Bounded.clamp Bounded.least Bounded.greatest
    omega
  obtain ⟨_, _, _, total⟩ := normalized
  exact ⟨counts (by omega) good, counts (by omega) neutral, counts (by omega) evil⟩

theorem add_kind (kind : delta.IsKind) : (a.add delta).IsDivisible ∧
    (a.add delta).evil = a.evil ∧ 100 ≤ (a.add delta).whole ∧
    (2 ≤ delta.good + delta.neutral → 102 ≤ (a.add delta).whole) := by
  obtain ⟨moreGood, moreNeutral, noEvil⟩ := kind
  have parts := normalized.add_parts moreGood moreNeutral (Int.le_of_eq noEvil.symm)
  obtain ⟨_, _, _, total⟩ := normalized
  have whole : 100 ≤ (a.add delta).whole := by
    unfold Alignment.whole
    omega
  refine ⟨⟨by omega, by omega, by omega, by omega⟩, by omega, whole, ?_⟩
  unfold Alignment.whole
  omega

/-- Evil rises where more is cut off the other shares than evil loses to the deed. -/
theorem evil_lt_iff (kind : delta.IsKind) : a.evil < (a.add delta).renormalize.evil ↔
    a.evil * ((a.add delta).whole - 100) < (a.add delta).cutOff := by
  obtain ⟨divisible, same, _⟩ := normalized.add_kind kind
  have taken := divisible.evil_mul_whole
  rw [same] at taken
  rw [← Int.mul_lt_mul_right divisible.whole, taken, Int.mul_sub]
  omega

theorem evil_le_add_one (kind : delta.IsKind) :
    (a.add delta).renormalize.evil ≤ a.evil + 1 := by
  obtain ⟨divisible, same, more, _⟩ := normalized.add_kind kind
  have taken := divisible.evil_mul_whole
  have cut := divisible.cutOff_lt
  have lost := Int.mul_le_mul_of_nonneg_left more normalized.evil
  by_contra above
  have twoMore : a.evil + 2 ≤ (a.add delta).renormalize.evil := by omega
  have product := Int.mul_le_mul_of_nonneg_right twoMore (Int.le_of_lt divisible.whole)
  rw [taken, same, Int.add_mul] at product
  omega

/-- From one half on evil loses more than can be cut off, if the deed counts for two or more. -/
theorem evil_le_of_half (kind : delta.IsKind) (counts : 2 ≤ delta.good + delta.neutral)
    (half : 50 ≤ a.evil) : (a.add delta).renormalize.evil ≤ a.evil := by
  obtain ⟨divisible, same, _, more⟩ := normalized.add_kind kind
  have more := more counts
  have taken := divisible.evil_mul_whole
  by_contra above
  have oneMore : a.evil + 1 ≤ (a.add delta).renormalize.evil := by omega
  have product := Int.mul_le_mul_of_nonneg_right oneMore (Int.le_of_lt divisible.whole)
  rw [taken, same, Int.add_mul] at product
  by_cases least : (a.add delta).whole = 102
  · -- hundredfolds leave even remainders here, so that two less can be cut off
    unfold cutOff at product
    rw [least] at product
    omega
  · have cut := divisible.cutOff_lt
    have lost := Int.mul_le_mul_of_nonneg_right half (by omega : 0 ≤ (a.add delta).whole - 100)
    rw [Int.mul_sub a.evil] at lost
    omega

theorem add_wicked (wicked : delta.IsWicked) : (a.add delta).IsDivisible ∧
    (a.add delta).good = a.good ∧ (a.add delta).neutral = a.neutral ∧
    100 < (a.add delta).whole := by
  obtain ⟨noGood, noNeutral, moreEvil⟩ := wicked
  have parts := normalized.add_parts (Int.le_of_eq noGood.symm) (Int.le_of_eq noNeutral.symm)
    (Int.le_of_lt moreEvil)
  obtain ⟨_, _, _, total⟩ := normalized
  have whole : 100 < (a.add delta).whole := by
    unfold Alignment.whole
    omega
  exact ⟨⟨by omega, by omega, by omega, by omega⟩, by omega, by omega, whole⟩

theorem shift_wicked (wicked : delta.IsWicked) :
    (a.add delta).renormalize.good ≤ a.good ∧ (a.add delta).renormalize.neutral ≤ a.neutral ∧
    (a.evil < 100 → a.evil < (a.add delta).renormalize.evil) := by
  obtain ⟨divisible, sameGood, sameNeutral, more⟩ := normalized.add_wicked wicked
  have good := divisible.good_mul_whole_le
  have neutral := divisible.neutral_mul_whole_le
  rw [sameGood] at good
  rw [sameNeutral] at neutral
  obtain ⟨goodLe, goodLt⟩ := share_le normalized.good more good
  obtain ⟨neutralLe, neutralLt⟩ := share_le normalized.neutral more neutral
  refine ⟨goodLe, neutralLe, fun room => ?_⟩
  have before := normalized.total
  have after := (isNormalized_renormalize (a.add delta)).total
  omega

theorem shift_wicked_eq (wicked : delta.IsWicked) (all : a.evil = 100) :
    (a.add delta).renormalize = a := by
  obtain ⟨goodLe, neutralLe, _⟩ := normalized.shift_wicked wicked
  obtain ⟨good, neutral, _, total⟩ := normalized
  obtain ⟨good', neutral', _, total'⟩ := isNormalized_renormalize (a.add delta)
  apply Alignment.ext <;> omega

end IsNormalized

end Storyline.Alignment
