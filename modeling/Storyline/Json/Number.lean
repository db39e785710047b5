import Storyline.Json.Basic
import Storyline.Decimal.Reading
import Storyline.Number.Bounded

/-!
JSON numbers. Without a point or an exponent a number that fits a 64-bit word, signed or unsigned,
is an integer. Of any other number the digits that fit a word are read as a whole number, which is
then multiplied with a power of ten or divided by one; both steps round to binary64, so the result
is near the number that is written and not always nearest to it. A number that comes out too large
is unreadable.
-/
namespace Storyline.Json

/-- The powers of ten that are finite in binary64 have exponents up to this one. -/
def greatestPower : Nat := 308

def powerOfTen (exponent : Nat) : Float := Decimal.nearest 1 exponent

/-- A number times a power of ten, unless that is too large. Small powers beyond the finite ones are
taken in steps. -/
def scaled? (x : Float) (exponent : Int) : Option Float :=
  if exponent.natAbs ≤ greatestPower then
    let power := powerOfTen exponent.natAbs
    let y := if 0 ≤ exponent then x * power else x / power
    if y.isInf then none else some y
  else if x == 0.0 then some x
  else if 0 ≤ exponent then none
  else scaled? (x / powerOfTen greatestPower) (exponent + greatestPower)
termination_by exponent.natAbs
decreasing_by simp only [greatestPower] at *; omega

def realOf (negative : Bool) (significand : Nat) (exponent : Int) : Json :=
  match scaled? (Decimal.nearest significand 0) exponent with
  | some x => real (Decimal.negateIf negative x)
  | none => unreadable

def takeFitting (n : Nat) : List Char → Nat × List Char
  | [] => (n, [])
  | c :: rest =>
    let next := 10 * n + Decimal.digitValue c
    if next ≤ Bounded.greatestWord then takeFitting next rest else (n, c :: rest)

/-- The value of a number without point and exponent. Zero with a sign is no integer. -/
def integerOf (negative : Bool) (whole : List Char) : Json :=
  let n := Decimal.naturalOf whole
  if negative = false ∧ n ≤ Bounded.greatestWord then integer n
  else if negative = true ∧ n ≠ 0 ∧ n ≤ Bounded.greatest + 1 then integer (-n)
  else
    let (significand, left) := takeFitting 0 whole
    realOf negative significand left.length

/-- The value of a number with point or exponent. Digits that do not fit are dropped; those before
the point leave their places behind. -/
def fractionOf (negative : Bool) (whole places : List Char) (exponent : Int) : Json :=
  let (significand, left) := takeFitting 0 whole
  let (significand, dropped) := takeFitting significand places
  realOf negative significand (exponent + left.length - (places.length - dropped.length : Nat))

def takePlaces? : List Char → Option (Option (List Char) × List Char)
  | '.' :: rest =>
    let places := rest.takeWhile Char.isDigit
    if places = [] then none else some (some places, rest.drop places.length)
  | cs => some (none, cs)

def takeExponent? : List Char → Option (Option Int × List Char)
  | [] => some (none, [])
  | c :: rest =>
    if c = 'e' ∨ c = 'E' then
      let (negative, rest) := Decimal.takeSign rest
      let digits := rest.takeWhile Char.isDigit
      let e : Int := Decimal.naturalOf digits
      if digits = [] then none
      else some (some (if negative then -e else e), rest.drop digits.length)
    else some (none, c :: rest)

/-- The digits before the point; a leading zero stands alone. -/
def wholeDigits : List Char → List Char
  | '0' :: _ => ['0']
  | cs => cs.takeWhile Char.isDigit

def takeMinus : List Char → Bool × List Char
  | '-' :: rest => (true, rest)
  | cs => (false, cs)

def takeNumber? (cs : List Char) : Option (Json × List Char) := do
  let (negative, cs) := takeMinus cs
  let whole := wholeDigits cs
  let (places, rest) ← takePlaces? (cs.drop whole.length)
  let (exponent, rest) ← takeExponent? rest
  if whole = [] then none
  else if places.isNone ∧ exponent.isNone then return (integerOf negative whole, rest)
  else return (fractionOf negative whole (places.getD []) (exponent.getD 0), rest)

end Storyline.Json
