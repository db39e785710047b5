import Storyline.Number.Binary64

/-!
The fewest decimal digits that read back to a binary64 number, and of those the nearest.
A point of a decimal grid reads back when it lies in the interval of reals that round to
the number; the ends belong to it when the significand is even.
-/
namespace Storyline.Decimal

/-- A decimal number: digits · 10 ^ exponent. -/
structure Digits where
  digits : Nat
  exponent : Int

/-- A positive number and the interval that rounds to it, in quarters of its last binary place. -/
structure Interval where
  low : Nat
  middle : Nat
  high : Nat
  closed : Bool
  power : Int

def interval (m : Nat) (q : Int) : Interval :=
  { low := if m = Nat.pow 2 52 ∧ -1074 < q then 4 * m - 1 else 4 * m - 2
    middle := 4 * m
    high := 4 * m + 2
    closed := m % 2 = 0
    power := q - 2 }

def comparePoint (point : Nat) (e : Int) (bound : Nat) (power : Int) : Ordering :=
  let (pn, pd) := Binary64.scale 10 point e
  let (bn, bd) := Binary64.scale 2 bound power
  compare (pn * bd) (bn * pd)

def Interval.contains (i : Interval) (point : Nat) (e : Int) : Bool :=
  match comparePoint point e i.low i.power, comparePoint point e i.high i.power with
  | .gt, .lt => true
  | .eq, _ => i.closed
  | _, .eq => i.closed
  | _, _ => false

/-- The nearest neighbour of the number on the grid 10 ^ e that reads back. -/
def Interval.pointOn? (i : Interval) (tie : Rounding.Tie) (e : Int) : Option Digits :=
  let (vn, vd) := Binary64.scale 2 i.middle i.power
  let (un, ud) := Binary64.scale 10 1 e
  let below := (vn * ud) / (vd * un)
  let nearest := Rounding.nearest tie (vn * ud) (vd * un)
  let other := if nearest = below then below + 1 else below
  if nearest ≠ 0 ∧ i.contains nearest e then some ⟨nearest, e⟩
  else if other ≠ 0 ∧ i.contains other e then some ⟨other, e⟩
  else none

/-- An exponent of ten whose power exceeds m · 2 ^ q, by at most two places. -/
def leadingPlace (m : Nat) (q : Int) : Int :=
  ((m.log2 + q + 1) * 30103) / 100000 + 1

/-- The first grid, from coarse to fine, that has a point reading back to m · 2 ^ q. -/
def shortest (tie : Rounding.Tie) (m : Nat) (q : Int) : Digits :=
  if m = 0 then ⟨0, 0⟩
  else
    let i := interval m q
    let top := leadingPlace m q
    ((List.range 22).findSome? fun (k : Nat) => i.pointOn? tie (top - k)).getD ⟨m, q⟩

end Storyline.Decimal
