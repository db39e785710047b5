import Mathlib.Algebra.GroupWithZero.Nat
import Storyline.Number.Binary64

/-!
Finite binary64 numbers. What arithmetic on numbers computes is rounded, packed into bits and taken
out of them again. A mantissa and an exponent that stay in bounds come out as a finite number, so
whole numbers of the 64-bit ranges are finite. No bound is needed to tell what is not-a-number: it
comes out of a product or a quotient only when it went in, as long as the right factor or the
divisor is finite and not zero.
-/
namespace Storyline.Finite

open Float.Model (UnpackedFloat Format totalExponent)
open Float.Model.UnpackedFloat

theorem log2_le {m bits : Nat} (h : m < 2 ^ (bits + 1)) : m.log2 ≤ bits := by
  rcases Nat.eq_zero_or_pos m with rfl | positive
  · exact Nat.zero_le _
  · exact Nat.le_of_lt_succ ((Nat.log2_lt (Nat.ne_of_gt positive)).2 h)

theorem lt_of_log2_le {m bits : Nat} (h : m.log2 ≤ bits) : m < 2 ^ (bits + 1) := by
  rcases Nat.eq_zero_or_pos m with rfl | positive
  · exact Nat.two_pow_pos _
  · exact (Nat.log2_lt (Nat.ne_of_gt positive)).1 (Nat.lt_succ_of_le h)

theorem log2_succ_le {m bits : Nat} (h : m.log2 ≤ bits) : (m + 1).log2 ≤ bits + 1 := by
  have bound := lt_of_log2_le h
  have step : 2 ^ (bits + 1 + 1) = 2 * 2 ^ (bits + 1) := Nat.pow_succ'
  have positive := Nat.two_pow_pos (bits + 1)
  exact log2_le (by omega)

theorem log2_mul_le {m n a b : Nat} (hm : m.log2 ≤ a) (hn : n.log2 ≤ b) :
    (m * n).log2 ≤ a + b + 1 := by
  apply log2_le
  have product := Nat.mul_lt_mul'' (lt_of_log2_le hm) (lt_of_log2_le hn)
  rwa [← Nat.pow_add, show a + 1 + (b + 1) = a + b + 1 + 1 by omega] at product

theorem log2_le_log2 {m n bits : Nat} (less : m ≤ n) (h : n.log2 ≤ bits) : m.log2 ≤ bits :=
  log2_le (Nat.lt_of_le_of_lt less (lt_of_log2_le h))

theorem log2_div_two_pow {m k bits : Nat} (h : m.log2 = bits + k) (positive : m ≠ 0) :
    (m / 2 ^ k).log2 = bits := by
  obtain ⟨low, high⟩ := (Nat.log2_eq_iff positive).1 h
  have unit := Nat.two_pow_pos k
  have least : 2 ^ bits ≤ m / 2 ^ k := by
    rwa [Nat.le_div_iff_mul_le unit, ← Nat.pow_add]
  refine (Nat.log2_eq_iff (Nat.ne_of_gt (Nat.lt_of_lt_of_le (Nat.two_pow_pos bits) least))).2
    ⟨least, ?_⟩
  rwa [Nat.div_lt_iff_lt_mul unit, ← Nat.pow_add, Nat.add_right_comm]

theorem ne_zero_of_le_log2 {m bits : Nat} (long : bits + 1 ≤ m.log2) : m ≠ 0 := by
  rintro rfl
  cases long

/-- Zero, or a number with a mantissa and an exponent in bounds. -/
inductive Within (bits : Nat) (bound : Int) : UnpackedFloat → Prop
  | zero (s : Sign) : Within bits bound (.zero s)
  | finite {s : Sign} {m : Nat} {e : Int} {positive : 0 < m} (small : m.log2 ≤ bits)
      (low : e ≤ bound) : Within bits bound (.finite s m e positive)

theorem Within.mono {bits bits' : Nat} {bound bound' : Int} {u : UnpackedFloat}
    (h : Within bits bound u) (more : bits ≤ bits') (higher : bound ≤ bound') :
    Within bits' bound' u := by
  cases h with
  | zero s => exact .zero s
  | finite small low => exact .finite (Nat.le_trans small more) (Int.le_trans low higher)

theorem Within.isFinite {bits : Nat} {bound : Int} {u : UnpackedFloat} (h : Within bits bound u) :
    u.isFinite = true := by
  cases h <;> rfl

theorem isFinite_unpacked_iff (u : UnpackedFloat) :
    u.isFinite = true ↔ u.isNaN = false ∧ u.isInf = false := by
  cases u with
  | notANumber => exact ⟨nofun, fun h => nomatch h.1⟩
  | infinity s => exact ⟨nofun, fun h => nomatch h.2⟩
  | zero s => exact ⟨fun _ => ⟨rfl, rfl⟩, fun _ => rfl⟩
  | finite s m e positive => exact ⟨fun _ => ⟨rfl, rfl⟩, fun _ => rfl⟩

theorem within_unpack {b : BitVec Format.binary64.numBits} (ordinary : unpackExponent b ≠ -1#_)
    {bound : Int} (floor : -1074 ≤ bound) (fits : ((unpackExponent b).toNat : Int) ≤ bound + 1075) :
    Within 52 bound (unpack .binary64 b) := by
  have bias : ((Format.binary64.exponentBias : Nat) : Int) = 1023 := by decide
  delta unpack
  dsimp only
  rw [if_neg ordinary]
  by_cases small : unpackExponent b = 0#_
  · have least : (unpackExponent b).toNat = 0 := congrArg BitVec.toNat small
    rw [if_pos small]
    by_cases none : unpackMantissa b = 0#_
    · rw [dif_pos none]
      exact .zero _
    · rw [dif_neg none]
      exact .finite (log2_le (Nat.lt_trans (unpackMantissa b).isLt (by decide))) (by omega)
  · rw [if_neg small]
    exact .finite (log2_le (1#1 ++ unpackMantissa b).isLt) (by omega)

theorem within_unpack_packComponents (s : Sign) {exponent : BitVec 11} (ordinary : exponent ≠ -1#_)
    (mantissa : BitVec 52) {bound : Int} (floor : -1074 ≤ bound)
    (fits : (exponent.toNat : Int) ≤ bound + 1075) :
    Within 52 bound (unpack .binary64 (packComponents .binary64 s exponent mantissa)) := by
  apply within_unpack _ floor
  · rwa [unpackExponent_packComponents]
  · rwa [unpackExponent_packComponents]

theorem unpackExponent_ne {b : BitVec Format.binary64.numBits}
    (finite : (unpack .binary64 b).isFinite = true) : unpackExponent b ≠ -1#_ := by
  intro special
  delta unpack at finite
  dsimp only at finite
  rw [if_pos special] at finite
  split at finite <;> cases finite

theorem within_of_isFinite {b : BitVec Format.binary64.numBits}
    (finite : (unpack .binary64 b).isFinite = true) : Within 52 971 (unpack .binary64 b) := by
  have ordinary := unpackExponent_ne finite
  apply within_unpack ordinary (by decide)
  have size := (unpackExponent b).isLt
  have top : (unpackExponent b).toNat ≠ 2047 := fun same => ordinary (BitVec.eq_of_toNat_eq same)
  change _ < 2 ^ 11 at size
  omega

theorem pack_finite (s : Sign) (m : Nat) (e : Int) (positive : 0 < m) :
    pack .binary64 (.finite s m e positive) =
      if 2047 ≤ (e + 1075).toNat then packedInfinity .binary64 s
      else packComponents .binary64 s
        (if m.log2 = 52 then BitVec.ofNat 11 (e + 1075).toNat else 0#11) (BitVec.ofNat 52 m) := by
  have biased : e + (1023 : Nat) + (52 : Nat) = e + 1075 := by omega
  have shape : pack .binary64 (.finite s m e positive) =
      if 2 ^ 11 ≤ (e + (1023 : Nat) + (52 : Nat)).toNat + 1 then packedInfinity .binary64 s
      else if m.log2 + 1 = 1 + 52 then
        packComponents .binary64 s (BitVec.ofNat 11 (e + (1023 : Nat) + (52 : Nat)).toNat)
          (BitVec.ofNat 52 m)
      else packComponents .binary64 s 0#11 (BitVec.ofNat 52 m) := rfl
  rw [shape, biased]
  by_cases large : 2047 ≤ (e + 1075).toNat
  · rw [if_pos large, if_pos (by omega)]
  · rw [if_neg large, if_neg (by omega)]
    by_cases normal : m.log2 = 52
    · rw [if_pos normal, if_pos (by omega)]
    · rw [if_neg normal, if_neg (by omega)]

theorem within_unpack_pack {bits : Nat} {bound : Int} (floor : -1074 ≤ bound)
    (ceiling : bound < 972) {u : UnpackedFloat} (h : Within bits bound u) :
    Within 52 bound (unpack .binary64 (pack .binary64 u)) := by
  cases h with
  | zero s =>
    exact within_unpack_packComponents s (by decide) _ floor (show (0 : Int) ≤ _ by omega)
  | @finite s m e _ _ low =>
    have under : ¬ 2047 ≤ (e + 1075).toNat := by omega
    rw [pack_finite, if_neg under]
    split
    · have value : (BitVec.ofNat 11 (e + 1075).toNat).toNat = (e + 1075).toNat := by
        rw [BitVec.toNat_ofNat]
        omega
      have fits : ((BitVec.ofNat 11 (e + 1075).toNat).toNat : Int) ≤ bound + 1075 := by
        rw [value]
        omega
      refine within_unpack_packComponents s ?_ _ floor fits
      intro special
      rw [special, show (-1#11).toNat = 2047 from rfl] at value
      omega
    · exact within_unpack_packComponents s (by decide) _ floor (show (0 : Int) ≤ _ by omega)

theorem isNaN_unpack_pack (u : UnpackedFloat) :
    (unpack .binary64 (pack .binary64 u)).isNaN = u.isNaN := by
  have infinity : ∀ s, (unpack .binary64 (packedInfinity .binary64 s)).isNaN = false := by
    intro s
    cases s <;> decide
  cases u with
  | notANumber => decide
  | infinity s => exact infinity s
  | zero s => cases s <;> decide
  | finite s m e positive =>
    by_cases large : 2047 ≤ (e + 1075).toNat
    · rw [pack_finite, if_pos large]
      exact infinity s
    · have small : Within m.log2 (max e (-1074)) (.finite s m e positive) :=
        .finite (Nat.le_refl _) (by omega)
      have finite := within_unpack_pack (by omega) (by omega) small
      exact ((isFinite_unpacked_iff _).1 finite.isFinite).1

/-- What is rounded is zero or finite. -/
theorem roundWithAccuracy_cases (s : Sign) (m : Nat) (e : Int) (a : Accuracy) :
    let first := shiftToTargetExponent .binary64 m e a
    let second := shiftToTargetExponent .binary64 first.1.roundedMantissa first.2 .exact
    roundWithAccuracy .binary64 s m e a = .zero s ∨
      ∃ positive, roundWithAccuracy .binary64 s m e a =
        .finite s second.1.mantissa second.2 positive := by
  intro first second
  by_cases none : second.1.mantissa = 0
  · exact .inl (dif_pos none)
  · exact .inr ⟨Nat.pos_of_ne_zero none, dif_neg none⟩

theorem isNaN_roundWithAccuracy (s : Sign) (m : Nat) (e : Int) (a : Accuracy) :
    (roundWithAccuracy .binary64 s m e a).isNaN = false := by
  obtain zero | ⟨positive, finite⟩ := roundWithAccuracy_cases s m e a
  · rw [zero]
    rfl
  · rw [finite]
    rfl

theorem mantissa_shiftRight (em : ExtendedMantissa) (k : Nat) :
    (em >>> k).mantissa = em.mantissa / 2 ^ k := by
  induction k with
  | zero => exact (Nat.div_one _).symm
  | succ k ih =>
    rw [Nat.pow_succ, ← Nat.div_div_eq_div_mul, ← ih]
    rfl

theorem le_roundedMantissa (em : ExtendedMantissa) : em.mantissa ≤ em.roundedMantissa := by
  obtain ⟨m, r, t⟩ := em
  cases r <;> cases t <;>
    simp [ExtendedMantissa.roundedMantissa, ExtendedMantissa.accuracy, Accuracy.roundToNearestEven]

theorem roundedMantissa_le (em : ExtendedMantissa) : em.roundedMantissa ≤ em.mantissa + 1 := by
  obtain ⟨m, r, t⟩ := em
  cases r <;> cases t <;>
    simp [ExtendedMantissa.roundedMantissa, ExtendedMantissa.accuracy, Accuracy.roundToNearestEven]
  omega

theorem targetExponent_eq (m : Nat) (e : Int) :
    Format.binary64.targetExponent (totalExponent m e) = max (m.log2 + e - 52) (-1074) := by
  have least : Format.binary64.minExponent = -1074 := by decide
  have digits : (Format.binary64.mantissaBits : Int) = 53 := rfl
  rw [Format.targetExponent, totalExponent, digits, least]
  omega

theorem shiftToTargetExponent_le {m bits : Nat} {e bound : Int} (a : Accuracy)
    (small : m.log2 ≤ bits) (low : e ≤ bound) (floor : -1074 ≤ bound) :
    (shiftToTargetExponent .binary64 m e a).1.mantissa ≤ m ∧
      (shiftToTargetExponent .binary64 m e a).2 ≤ bound + bits := by
  unfold shiftToTargetExponent shiftToExponent
  constructor
  · rw [mantissa_shiftRight]
    refine Nat.le_trans (Nat.div_le_self _ _) ?_
    cases a with
    | exact => exact Nat.le_refl m
    | inexact o => cases o <;> exact Nat.le_refl m
  · dsimp only
    rw [targetExponent_eq]
    omega

theorem roundWithAccuracy_within (s : Sign) {m bits : Nat} {e bound : Int} (a : Accuracy)
    (small : m.log2 ≤ bits) (low : e ≤ bound) (floor : -1074 ≤ bound) :
    Within (bits + 1) (bound + 2 * bits + 1) (roundWithAccuracy .binary64 s m e a) := by
  obtain ⟨less, first⟩ := shiftToTargetExponent_le a small low floor
  have rounded : (shiftToTargetExponent .binary64 m e a).1.roundedMantissa.log2 ≤ bits + 1 :=
    log2_le_log2 (Nat.le_trans (roundedMantissa_le _) (Nat.succ_le_succ less)) (log2_succ_le small)
  obtain ⟨less', second⟩ := shiftToTargetExponent_le .exact rounded first (by omega)
  obtain zero | ⟨positive, finite⟩ := roundWithAccuracy_cases s m e a
  · rw [zero]
    exact .zero s
  · rw [finite]
    exact .finite (log2_le_log2 less' rounded) (by omega)

/-- A mantissa of at least 53 digits is shifted to just as many, unless the exponent is very low. -/
theorem shiftToTargetExponent_normal {m : Nat} {e : Int} (a : Accuracy) (long : 52 ≤ m.log2)
    (high : -1022 ≤ m.log2 + e) :
    (shiftToTargetExponent .binary64 m e a).1.mantissa = m / 2 ^ (m.log2 - 52) ∧
      (shiftToTargetExponent .binary64 m e a).2 = m.log2 + e - 52 := by
  have target : Format.binary64.targetExponent (totalExponent m e) = m.log2 + e - 52 := by
    rw [targetExponent_eq]
    omega
  have shift : (m.log2 + e - 52 - e).toNat = m.log2 - 52 := by omega
  unfold shiftToTargetExponent shiftToExponent
  dsimp only
  rw [target, shift]
  constructor
  · rw [mantissa_shiftRight]
    cases a with
    | exact => rfl
    | inexact o => cases o <;> rfl
  · omega

/-- Rounding keeps 53 digits of a longer mantissa. -/
theorem roundWithAccuracy_normal (s : Sign) {m : Nat} {e : Int} (a : Accuracy)
    (long : 52 ≤ m.log2) (high : -1022 ≤ m.log2 + e) :
    ∃ n f positive, roundWithAccuracy .binary64 s m e a = .finite s n f positive ∧ n.log2 = 52 ∧
      -1074 ≤ f ∧ f ≤ m.log2 + e - 51 := by
  obtain ⟨first, exponent⟩ := shiftToTargetExponent_normal a long high
  have kept : (m / 2 ^ (m.log2 - 52)).log2 = 52 :=
    log2_div_two_pow (by omega) (ne_zero_of_le_log2 long)
  have less := roundedMantissa_le (shiftToTargetExponent .binary64 m e a).1
  have more := le_roundedMantissa (shiftToTargetExponent .binary64 m e a).1
  rw [first] at less more
  rw [roundWithAccuracy]
  dsimp only
  rw [exponent]
  generalize (shiftToTargetExponent .binary64 m e a).1.roundedMantissa = r at less more ⊢
  have nonzero : m / 2 ^ (m.log2 - 52) ≠ 0 := ne_zero_of_le_log2 (Nat.le_of_eq kept.symm)
  have least : 2 ^ 52 ≤ r := Nat.le_trans ((Nat.log2_eq_iff nonzero).1 kept).1 more
  -- rounding up may take one digit more
  have longer : 52 ≤ r.log2 := (Nat.le_log2 (by omega)).2 least
  have shorter : r.log2 ≤ 53 := log2_le_log2 less (log2_succ_le (Nat.le_of_eq kept))
  obtain ⟨second, exponent'⟩ := shiftToTargetExponent_normal (e := m.log2 + e - 52) .exact longer
    (by omega)
  have digits : (r / 2 ^ (r.log2 - 52)).log2 = 52 :=
    log2_div_two_pow (by omega) (ne_zero_of_le_log2 longer)
  rw [second, exponent', dif_neg (ne_zero_of_le_log2 (Nat.le_of_eq digits.symm))]
  exact ⟨_, _, _, rfl, digits, by omega, by omega⟩

theorem unpack_pack_normal (s : Sign) {m : Nat} {e : Int} (positive : 0 < m) (long : m.log2 = 52)
    (low : -1074 ≤ e) (high : e ≤ 971) :
    ∃ s' n f some_left, unpack .binary64 (pack .binary64 (.finite s m e positive)) =
      .finite s' n f some_left := by
  have value : (BitVec.ofNat 11 (e + 1075).toNat).toNat = (e + 1075).toNat := by
    rw [BitVec.toNat_ofNat]
    omega
  have below : ¬ BitVec.ofNat 11 (e + 1075).toNat = -1#_ := by
    intro special
    rw [special, show (-1#11).toNat = 2047 from rfl] at value
    omega
  have above : ¬ BitVec.ofNat 11 (e + 1075).toNat = 0#_ := by
    intro special
    rw [special, show (0#11).toNat = 0 from rfl] at value
    omega
  rw [pack_finite, if_neg (by omega), if_pos long]
  delta unpack
  dsimp only
  rw [unpackExponent_packComponents, if_neg below, if_neg above]
  exact ⟨_, _, _, _, rfl⟩

/-! Numbers, which are packed. -/

def isSolid (x : Float) : Bool :=
  match x.toModel.unpack with
  | .finite .. => true
  | _ => false

theorem exists_of_isSolid {x : Float} (h : isSolid x = true) :
    ∃ s m e positive, x.toModel.unpack = .finite s m e positive := by
  unfold isSolid at h
  generalize x.toModel.unpack = u at h
  cases u with
  | finite s m e positive => exact ⟨s, m, e, positive, rfl⟩
  | _ => cases h

theorem isFinite_iff {x : Float} : x.isFinite = true ↔ x.isNaN = false ∧ x.isInf = false :=
  isFinite_unpacked_iff _

theorem isNaN_applied {f : UnpackedFloat → UnpackedFloat} {x : Float} (hx : x.isNaN = false)
    (infinity : ∀ s, (f (.infinity s)).isNaN = false) (zero : ∀ s, (f (.zero s)).isNaN = false)
    (finite : ∀ s m e positive, (f (.finite s m e positive)).isNaN = false) :
    (unpack .binary64 (pack .binary64 (f x.toModel.unpack))).isNaN = false := by
  change x.toModel.unpack.isNaN = false at hx
  rw [isNaN_unpack_pack]
  cases shape : x.toModel.unpack with
  | notANumber => rw [shape] at hx; cases hx
  | infinity s => exact infinity s
  | zero s => exact zero s
  | finite s m e positive => exact finite s m e positive

theorem isNaN_mul {x y : Float} (hx : x.isNaN = false) (hy : isSolid y = true) :
    (x * y).isNaN = false := by
  obtain ⟨s, m, e, positive, solid⟩ := exists_of_isSolid hy
  refine isNaN_applied (f := fun u => mul .binary64 u y.toModel.unpack) hx ?_ ?_ ?_ <;> rw [solid]
  · exact fun _ => rfl
  · exact fun _ => rfl
  · exact fun _ _ _ _ => isNaN_roundWithAccuracy ..

theorem isNaN_div {x y : Float} (hx : x.isNaN = false) (hy : isSolid y = true) :
    (x / y).isNaN = false := by
  obtain ⟨s, m, e, positive, solid⟩ := exists_of_isSolid hy
  refine isNaN_applied (f := fun u => div .binary64 u y.toModel.unpack) hx ?_ ?_ ?_ <;> rw [solid]
  · exact fun _ => rfl
  · exact fun _ => rfl
  · exact fun _ _ _ _ => isNaN_roundWithAccuracy ..

theorem isFinite_neg {x : Float} (h : x.isFinite = true) : (-x).isFinite = true := by
  have within := within_of_isFinite h
  have negated : Within 52 971 (neg (unpack .binary64 x.toModel.toBits.toBitVec)) := by
    generalize unpack .binary64 x.toModel.toBits.toBitVec = u at within
    cases within with
    | zero s => exact .zero _
    | finite small low => exact .finite small low
  exact (within_unpack_pack (by decide) (by decide) negated).isFinite

theorem isFinite_of_beq_zero {x : Float} (h : (x == 0.0) = true) : x.isFinite = true := by
  change x.toModel.unpack.isFinite = true
  change ((x.toModel.unpack.compare (0.0 : Float).toModel.unpack) == some .eq) = true at h
  have zero : (0.0 : Float).toModel.unpack = .zero .positive := rfl
  rw [zero] at h
  cases shape : x.toModel.unpack with
  | zero => rfl
  | finite => rfl
  | notANumber => rw [shape] at h; cases h
  | infinity s => rw [shape] at h; cases s <;> cases h

theorem mul_within {u v : UnpackedFloat} {a b : Nat} {low high : Int} (hu : Within a low u)
    (hv : Within b high v) (floor : -1074 ≤ low + high) :
    Within (a + b + 1 + 1) (low + high + 2 * (a + b + 1 : Nat) + 1) (mul .binary64 u v) := by
  cases hu with
  | zero s =>
    cases hv with
    | zero s' => exact .zero _
    | finite _ _ => exact .zero _
  | finite hm he =>
    cases hv with
    | zero s' => exact .zero _
    | finite hn hf =>
      exact roundWithAccuracy_within _ .exact (log2_mul_le hm hn) (Int.add_le_add he hf) floor

theorem log2_shiftLeft_le {m bits : Nat} (h : m.log2 ≤ bits) (k : Nat) :
    (m <<< k).log2 ≤ bits + k := by
  apply log2_le
  rw [Nat.shiftLeft_eq, Nat.add_right_comm, Nat.pow_add]
  exact Nat.mul_lt_mul_of_pos_right (lt_of_log2_le h) (Nat.two_pow_pos k)

theorem ofNat_within {n bits : Nat} (small : n.log2 ≤ bits) :
    Within (bits + 52 + 1) (0 + 2 * (bits + 52 : Nat) + 1) (ofNat .binary64 n) := by
  rcases Nat.eq_zero_or_pos n with rfl | positive
  · exact .zero _
  · have above : compare (n : Int) 0 = .gt := Int.compare_eq_gt.2 (by omega)
    have rounds : ofNat .binary64 n = UnpackedFloat.round .binary64 .positive n 0 := by
      simp only [ofNat, ofInt, UnpackedFloat.normalize, above, Int.toNat_natCast]
    rw [rounds, UnpackedFloat.round]
    dsimp only [decreaseExponent]
    have few : ((0 : Int) - Format.binary64.targetExponent (totalExponent n 0)).toNat ≤ 52 := by
      rw [targetExponent_eq]
      omega
    refine roundWithAccuracy_within _ .exact ?_ (by omega) (by decide)
    exact Nat.le_trans (log2_shiftLeft_le small _) (Nat.add_le_add_left few bits)

theorem isFinite_ofModel {u : UnpackedFloat} {bits : Nat} {bound : Int} (h : Within bits bound u)
    (floor : -1074 ≤ bound) (ceiling : bound < 972) :
    (Float.ofModel (.pack u)).isFinite = true :=
  (within_unpack_pack floor ceiling h).isFinite

theorem ofScientific_within {n bits : Nat} (small : n.log2 ≤ bits) :
    Within (bits + 55) (2 * bits + 56) (ofScientific .binary64 n 0) := by
  rw [ofScientific]
  by_cases none : n = 0
  · rw [dif_pos none]
    exact .zero _
  · have room : (0 : Int) ≤ 2 ^ Format.binary64.exponentBits := by decide
    rw [dif_neg none, if_neg (by decide), if_neg (by omega), if_pos (Int.le_refl 0)]
    have scaled : Within (bits + 53) (-53)
        (.finite .positive (n <<< 53) (-53) (by rw [Nat.shiftLeft_eq]; omega)) :=
      .finite (log2_shiftLeft_le small 53) (Int.le_refl _)
    have unit : Within 0 0 (.finite .positive (10 ^ 0) 0 (by decide)) :=
      .finite (by decide) (Int.le_refl 0)
    have product := mul_within scaled unit (by decide)
    exact product.mono (by omega) (by omega)

theorem log2_ten_pow {e : Nat} (small : e ≤ 307) : (10 ^ e).log2 ≤ 1019 :=
  log2_le_log2 (Nat.pow_le_pow_right (by decide) small) (by decide +kernel)

/-- Powers of ten beyond those that multiply without rounding. -/
theorem isSolid_ofScientific {e : Nat} (long : 22 < e) (short : e ≤ 307) :
    isSolid (Float.ofScientific 1 false e) = true := by
  have size := log2_ten_pow short
  let m := 1 <<< 53 * 10 ^ e
  have more : 53 ≤ m.log2 := by
    have factor : 0 < 10 ^ e := Nat.pow_pos (by decide)
    have whole : 2 ^ 53 ≤ m := Nat.le_mul_of_pos_right _ factor
    exact (Nat.le_log2 (by omega)).2 whole
  have less : m.log2 ≤ 53 + 1019 + 1 := log2_mul_le (by decide) size
  obtain ⟨n, f, positive, rounded, digits, low, high⟩ :=
    roundWithAccuracy_normal .positive (m := m) (e := -53 + 0) .exact (by omega) (by omega)
  obtain ⟨s, n', f', positive', packed⟩ :=
    unpack_pack_normal .positive positive digits low (by omega)
  have product : ofScientific .binary64 1 (e : Int) =
      roundWithAccuracy .binary64 .positive m (-53 + 0) .exact := by
    have room : (2 : Int) ^ Format.binary64.exponentBits = 2048 := by decide
    rw [ofScientific, dif_neg (by decide), if_neg (by omega), if_neg (by omega),
      if_pos (Int.natCast_nonneg e)]
    rfl
  unfold Float.ofScientific
  rw [dif_neg (by omega)]
  unfold isSolid
  have shape : (Float.ofModel (.ofScientific 1 (e : Int))).toModel.unpack =
      .finite s n' f' positive' := by
    rw [← packed, ← rounded, ← product]
    rfl
  exact shape ▸ rfl

theorem isFinite_ofNat {n : Nat} (small : n ≤ Bounded.greatestWord + 1) :
    (Float.ofNat n).isFinite = true := by
  have bits : n.log2 ≤ 64 := log2_le (Nat.lt_of_le_of_lt small (by decide))
  have slow := isFinite_ofModel (ofScientific_within bits) (by decide) (by decide)
  change (Float.ofScientific n false 0).isFinite = true
  unfold Float.ofScientific
  split
  · rename_i short
    have word : n.toUInt64.toNat = n := Nat.mod_eq_of_lt (by omega)
    have near := within_unpack_pack (by decide) (by decide) (ofNat_within bits)
    have one : Within 52 (-52) (1.0 : Float).toModel.unpack :=
      .finite (by decide) (by decide)
    have product := mul_within near one (by decide)
    rw [← word] at product
    exact isFinite_ofModel product (by decide) (by decide)
  · exact slow

theorem isFinite_ofInt {n : Int} (low : Bounded.least ≤ n) (high : n ≤ Bounded.greatestWord) :
    (Float.ofInt n).isFinite = true := by
  unfold Bounded.least at low
  cases n with
  | ofNat n => exact isFinite_ofNat (Nat.le_succ_of_le (Int.ofNat_le.1 high))
  | negSucc n =>
    apply isFinite_neg
    apply isFinite_ofNat
    unfold Bounded.greatestWord
    omega

theorem ofFloat_of_isFinite {x : Float} (finite : x.isFinite = true) :
    ∃ negative m q, Binary64.ofFloat x = .finite negative m q := by
  have ordinary : x.toBits.toNat / Nat.pow 2 52 % Nat.pow 2 11 ≠ 2047 := by
    intro same
    refine unpackExponent_ne finite (BitVec.eq_of_toNat_eq ?_)
    change (x.toBits.toNat >>> 52) % 2 ^ 11 = 2047
    rwa [Nat.shiftRight_eq_div_pow]
  unfold Binary64.ofFloat
  dsimp only
  rw [if_neg ordinary]
  split
  · exact ⟨_, _, _, rfl⟩
  · exact ⟨_, _, _, rfl⟩
end Storyline.Finite
