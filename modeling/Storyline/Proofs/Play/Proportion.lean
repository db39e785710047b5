import Mathlib.Algebra.Order.Floor.Ring
import Mathlib.Data.Rat.Floor
import Mathlib.Tactic.Ring
import Storyline.Proofs.Play.Failure
import Storyline.Proofs.Play.Share

/-!
Shares in proportion. Good and neutral get what is theirs of the hundred, rounded down, and evil gets
the rest, which is at most two more than what is its own. All that is computed on the way fits the
words that hold it, and only the proportion of the parts counts, not their size.
-/
namespace Storyline

def Bounded.word? (bits : Nat) (n : Int) : Option Int :=
  if -2 ^ (bits - 1) ≤ n ∧ n < 2 ^ (bits - 1) then some n else none

theorem Bounded.word?_of_inRange {n : Int} (inRange : InRange n) : word? 64 n = some n := by
  unfold InRange least greatest at inRange
  exact if_pos (by omega)

theorem Bounded.word?_of_le {n : Int} (nonneg : 0 ≤ n) (small : n ≤ 100 * greatest) :
    word? 128 n = some n := by
  unfold greatest at small
  exact if_pos (by omega)

namespace Alignment

def clip (a : Alignment) : Alignment := ⟨max a.good 0, max a.neutral 0, max a.evil 0⟩

def scale (k : Int) (a : Alignment) : Alignment := ⟨k * a.good, k * a.neutral, k * a.evil⟩

def share? (part whole : Int) : Option Int := do
  let hundredfold ← Bounded.word? 128 (part * 100)
  let share ← Bounded.word? 128 (hundredfold.tdiv whole)
  Bounded.word? 64 share

/-- The shares, computed in words. There are none if a number on the way does not fit its word. -/
def renormalizeInWords? (a : Alignment) : Option Alignment := do
  let two ← Bounded.word? 128 (a.clip.good + a.clip.neutral)
  let whole ← Bounded.word? 128 (two + a.clip.evil)
  if whole = 0 then return {}
  else
    let good ← share? a.clip.good whole
    let neutral ← share? a.clip.neutral whole
    let rest ← Bounded.word? 64 (100 - good)
    let evil ← Bounded.word? 64 (rest - neutral)
    return ⟨good, neutral, evil⟩

variable {a : Alignment}

theorem renormalize_clip (a : Alignment) : a.clip.renormalize = a.renormalize := by
  have again (n : Int) : max (max n 0) 0 = max n 0 := by omega
  unfold renormalize
  simp only [clip, again]

theorem whole_clip_nonneg (a : Alignment) : 0 ≤ a.clip.whole := by
  unfold whole clip
  dsimp only
  omega

theorem isDivisible_clip (some_left : 0 < a.clip.whole) : a.clip.IsDivisible :=
  ⟨Int.le_max_right .., Int.le_max_right .., Int.le_max_right .., some_left⟩

theorem clip_eq_zero (none_left : a.clip.whole = 0) : a.clip = .zero := by
  unfold whole clip at none_left
  dsimp only at none_left
  ext <;> simp only [clip, zero] <;> omega

theorem renormalize_of_clip_eq_zero (none_left : a.clip.whole = 0) :
    a.renormalize = ⟨0, 100, 0⟩ := by
  rw [← renormalize_clip, clip_eq_zero none_left]
  rfl

/-! What the shares come to. -/

theorem floor_share {part whole : Int} (positive : 0 < whole) :
    ⌊(100 * part : ℚ) / whole⌋ = part * 100 / whole := by
  have quotient := Int.floor_div_cast_of_nonneg (Int.le_of_lt positive) ((part * 100 : Int) : ℚ)
  rw [Int.floor_intCast] at quotient
  rw [← quotient]
  push_cast
  ring_nf

/-- Good and neutral are rounded down; evil has at most two more than it would have so. -/
structure Apportions (parts shares : Alignment) : Prop where
  good : shares.good = ⌊(100 * parts.good : ℚ) / parts.whole⌋
  neutral : shares.neutral = ⌊(100 * parts.neutral : ℚ) / parts.whole⌋
  evil_least : ⌊(100 * parts.evil : ℚ) / parts.whole⌋ ≤ shares.evil
  evil_most : shares.evil ≤ ⌊(100 * parts.evil : ℚ) / parts.whole⌋ + 2

theorem IsDivisible.apportions (divisible : a.IsDivisible) : a.Apportions a.renormalize := by
  have taken := divisible.evil_mul_whole
  have cut := divisible.cutOff_lt
  have cut_nonneg : 0 ≤ a.cutOff :=
    Int.add_nonneg (Int.emod_nonneg _ (Int.ne_of_gt divisible.whole))
      (Int.emod_nonneg _ (Int.ne_of_gt divisible.whole))
  have positive := divisible.whole
  -- evil gets its own part and what was cut off, which is less than two wholes
  constructor
  · rw [floor_share positive, divisible.renormalize_eq]
  · rw [floor_share positive, divisible.renormalize_eq]
  · rw [floor_share positive, ← Int.lt_add_one_iff]
    apply Int.ediv_lt_of_lt_mul positive
    rw [Int.add_mul]
    omega
  · rw [floor_share positive, ← sub_le_iff_le_add]
    apply Int.le_ediv_of_mul_le positive
    rw [Int.sub_mul]
    omega

/-! The shares in words. -/

theorem share?_eq {part whole : Int} (nonneg : 0 ≤ part) (fits : part ≤ Bounded.greatest)
    (within : part ≤ whole) (positive : 0 < whole) :
    share? part whole = some (part * 100 / whole) := by
  have lower : 0 ≤ part * 100 / whole := Int.ediv_nonneg (by omega) (by omega)
  have upper : part * 100 / whole ≤ 100 := Int.ediv_le_of_le_mul positive (by omega)
  have quotient : (part * 100).tdiv whole = part * 100 / whole :=
    Int.tdiv_eq_ediv_of_nonneg (by omega)
  have hundredfold := Bounded.word?_of_le (n := part * 100) (by omega) (by omega)
  have share := Bounded.word?_of_le lower (by unfold Bounded.greatest; omega)
  have narrow := Bounded.word?_of_inRange (n := part * 100 / whole)
    (Bounded.inRange_of_small (by omega))
  simp only [share?, hundredfold, Option.bind_eq_bind, Option.bind_some, quotient, share, narrow]

theorem Storable.clip_le (words : a.Storable) : a.clip.good ≤ Bounded.greatest ∧
    a.clip.neutral ≤ Bounded.greatest ∧ a.clip.evil ≤ Bounded.greatest := by
  have size : 0 ≤ Bounded.greatest := by decide
  exact ⟨max_le words.good.2 size, max_le words.neutral.2 size, max_le words.evil.2 size⟩

theorem renormalizeInWords?_eq (words : a.Storable) :
    a.renormalizeInWords? = some a.renormalize := by
  obtain ⟨fitsGood, fitsNeutral, fitsEvil⟩ := words.clip_le
  have good : 0 ≤ a.clip.good := Int.le_max_right ..
  have neutral : 0 ≤ a.clip.neutral := Int.le_max_right ..
  have evil : 0 ≤ a.clip.evil := Int.le_max_right ..
  have parts : a.clip.whole = a.clip.good + a.clip.neutral + a.clip.evil := rfl
  have two := Bounded.word?_of_le (n := a.clip.good + a.clip.neutral) (by omega) (by omega)
  have three : Bounded.word? 128 (a.clip.good + a.clip.neutral + a.clip.evil) =
      some a.clip.whole := Bounded.word?_of_le (by omega) (by omega)
  rcases Int.lt_or_eq_of_le a.whole_clip_nonneg with some_left | none_left
  · have shares := (isDivisible_clip some_left).renormalize_eq
    rw [renormalize_clip] at shares
    have goodShare : share? a.clip.good a.clip.whole = some a.renormalize.good := by
      rw [share?_eq good fitsGood (by omega) some_left, shares]
    have neutralShare : share? a.clip.neutral a.clip.whole = some a.renormalize.neutral := by
      rw [share?_eq neutral fitsNeutral (by omega) some_left, shares]
    obtain ⟨low, low', low'', total⟩ := isNormalized_renormalize a
    have small {n : Int} (nonneg : 0 ≤ n) (le : n ≤ 100) : Bounded.word? 64 n = some n :=
      Bounded.word?_of_inRange (Bounded.inRange_of_small (by omega))
    have rest := small (n := 100 - a.renormalize.good) (by omega) (by omega)
    have evilShare : Bounded.word? 64 (100 - a.renormalize.good - a.renormalize.neutral) =
        some a.renormalize.evil := by
      rw [small (by omega) (by omega), ← total]
      congr 1
      omega
    have some_left : a.clip.whole ≠ 0 := Int.ne_of_gt some_left
    simp only [renormalizeInWords?, Option.bind_eq_bind, Option.bind_some, two, three, goodShare,
      neutralShare, rest, evilShare, if_neg some_left]
    rfl
  · simp only [renormalizeInWords?, Option.bind_eq_bind, Option.bind_some, two, three,
      if_pos none_left.symm, renormalize_of_clip_eq_zero none_left.symm]
    rfl

/-! The parts made larger. -/

theorem whole_scale (k : Int) (a : Alignment) : (a.scale k).whole = k * a.whole := by
  simp only [whole, scale, Int.mul_add]

theorem clip_scale {k : Int} (positive : 0 < k) (a : Alignment) :
    (a.scale k).clip = a.clip.scale k := by
  have grown (n : Int) : max (k * n) 0 = k * max n 0 := by
    rw [mul_max_of_nonneg _ _ (Int.le_of_lt positive), Int.mul_zero]
  simp only [clip, scale, grown]

theorem renormalize_scale {k : Int} (positive : 0 < k) (a : Alignment) :
    (a.scale k).renormalize = a.renormalize := by
  rw [← renormalize_clip, clip_scale positive, ← renormalize_clip a]
  rcases Int.lt_or_eq_of_le a.whole_clip_nonneg with some_left | none_left
  · have divisible := isDivisible_clip some_left
    have grown : (a.clip.scale k).IsDivisible :=
      ⟨Int.mul_nonneg (Int.le_of_lt positive) divisible.good,
        Int.mul_nonneg (Int.le_of_lt positive) divisible.neutral,
        Int.mul_nonneg (Int.le_of_lt positive) divisible.evil,
        whole_scale k _ ▸ Int.mul_pos positive some_left⟩
    have same (part : Int) :
        k * part * 100 / (k * a.clip.whole) = part * 100 / a.clip.whole := by
      rw [Int.mul_assoc, Int.mul_ediv_mul_of_pos _ _ positive]
    rw [grown.renormalize_eq, divisible.renormalize_eq, whole_scale]
    simp only [scale, same]
  · have nothing : Alignment.zero.scale k = .zero := by
      simp only [scale, zero, Int.mul_zero]
    rw [clip_eq_zero none_left.symm, nothing]

/-- Shares add up to one hundred in proportion to the parts that are not negative. What is computed
on the way fits its words, as long as the parts are words themselves; shares of shares are the same,
and so are the shares of parts that are all so many times as large. -/
theorem renormalize_in_proportion (words : a.Storable) :
    (0 < a.clip.whole → a.clip.Apportions a.renormalize) ∧
    (a.clip.whole = 0 → a.renormalize = ⟨0, 100, 0⟩) ∧
    (∀ share ∈ [a.renormalize.good, a.renormalize.neutral, a.renormalize.evil],
      0 ≤ share ∧ share ≤ 100) ∧
    a.renormalize.whole = 100 ∧
    a.renormalizeInWords? = some a.renormalize ∧
    a.renormalize.renormalize = a.renormalize ∧
    ∀ k, 0 < k → (a.scale k).renormalize = a.renormalize := by
  have normalized := isNormalized_renormalize a
  refine ⟨fun some_left => ?_, renormalize_of_clip_eq_zero, ?_, normalized.total,
    renormalizeInWords?_eq words, normalized.renormalize,
    fun k positive => renormalize_scale positive a⟩
  · rw [← renormalize_clip]
    exact (isDivisible_clip some_left).apportions
  · obtain ⟨good, neutral, evil, total⟩ := normalized
    intro share here
    simp only [List.mem_cons, List.not_mem_nil, or_false] at here
    rcases here with rfl | rfl | rfl <;> omega

/-- Parts of which three times as much are words, and four times are not. Evil has 66 of a hundred,
but two more are left for it. -/
def tyranny : Alignment := ⟨2 ^ 59, 2 ^ 59, 2 ^ 61⟩

theorem tyranny_in_proportion : tyranny.Storable ∧ 0 < tyranny.clip.whole ∧
    tyranny.clip.Apportions ⟨16, 16, 68⟩ ∧
    ⌊(100 * tyranny.clip.evil : ℚ) / tyranny.clip.whole⌋ = 66 ∧
    tyranny.renormalizeInWords? = some ⟨16, 16, 68⟩ ∧
    (tyranny.scale 3).Storable ∧ (tyranny.scale 3).renormalize = ⟨16, 16, 68⟩ := by
  have words : tyranny.Storable := ⟨by decide, by decide, by decide⟩
  have larger : (tyranny.scale 3).Storable := ⟨by decide, by decide, by decide⟩
  have shares : tyranny.renormalize = ⟨16, 16, 68⟩ := by decide
  have some_left : 0 < tyranny.clip.whole := by decide
  obtain ⟨apportions, _, _, _, inWords, _, scaled⟩ := renormalize_in_proportion words
  rw [shares] at apportions inWords scaled
  exact ⟨words, some_left, apportions some_left, (floor_share some_left).trans (by decide), inWords,
    larger, scaled 3 (by decide)⟩

end Alignment

end Storyline
