import Storyline.Number.Bounded
import Storyline.Number.Rounding

/-!
The value of a binary64 number read off its bits: a sign and significand · 2 ^ exponent.
Decimal text and conversion to whole numbers are computed from it in exact arithmetic.
-/
namespace Storyline

inductive Binary64 where
  | nan
  | infinite (negative : Bool)
  | finite (negative : Bool) (significand : Nat) (exponent : Int)

namespace Binary64

def ofFloat (x : Float) : Binary64 :=
  let bits := x.toBits.toNat
  let negative := decide (Nat.pow 2 63 ≤ bits)
  let biased : Nat := bits / Nat.pow 2 52 % Nat.pow 2 11
  let fraction := bits % Nat.pow 2 52
  if biased = 2047 then
    if fraction = 0 then infinite negative else nan
  else if biased = 0 then finite negative fraction (-1074)
  else finite negative (Nat.pow 2 52 + fraction) ((biased : Int) - 1075)

def scale (base n : Nat) (power : Int) : Nat × Nat :=
  if 0 ≤ power then (n * Nat.pow base power.toNat, 1) else (n, Nat.pow base (-power).toNat)

def sign (negative : Bool) (n : Nat) : Int := if negative then -n else n

/-- The nearest whole number, halves away from zero, held in the signed 64-bit range. -/
def roundToInt : Binary64 → Int
  | nan => 0
  | infinite negative => if negative then Bounded.least else Bounded.greatest
  | finite negative m q =>
    let (num, den) := scale 2 m q
    Bounded.clamp (sign negative (Rounding.halfUp num den))

/-- The whole part of a number times 2 ^ power; zero for all that is not positive and finite. -/
def floorScaled (power : Nat) : Binary64 → Nat
  | finite false m q =>
    let (num, den) := scale 2 m (q + power)
    num / den
  | _ => 0

end Binary64

def roundToInt (x : Float) : Int := (Binary64.ofFloat x).roundToInt

end Storyline
