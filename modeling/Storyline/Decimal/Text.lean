import Storyline.Decimal.Shortest

/-! Decimal text of binary64 numbers: plain, with a fixed count of places, and as a JSON number. -/
namespace Storyline.Decimal

def zeros (n : Nat) : String := String.ofList (List.replicate n '0')

def placePoint (digits : String) (places : Nat) : String :=
  if places = 0 then digits
  else
    let padded := zeros (places + 1 - digits.length) ++ digits
    let whole := padded.length - places
    String.ofList (padded.toList.take whole) ++ "." ++ String.ofList (padded.toList.drop whole)

def Digits.positional (d : Digits) : String :=
  if 0 ≤ d.exponent then toString d.digits ++ (if d.digits = 0 then "" else zeros d.exponent.toNat)
  else placePoint (toString d.digits) (-d.exponent).toNat

def signed (negative : Bool) (text : String) : String := if negative then "-" ++ text else text

/-- The shortest text that reads back: positional, without a point where none is needed; of two
texts as near, the upper one. -/
def plain (x : Float) : String :=
  match Binary64.ofFloat x with
  | .nan => "NaN"
  | .infinite negative => signed negative "inf"
  | .finite negative m q => signed negative (shortest .up m q).positional

/-- A fixed count of places; the exact binary value is rounded, a half to the even digit. -/
def fixed (places : Nat) (x : Float) : String :=
  match Binary64.ofFloat x with
  | .nan => "NaN"
  | .infinite negative => signed negative "inf"
  | .finite negative m q =>
    let (num, den) := Binary64.scale 2 m q
    signed negative (placePoint (toString (Rounding.halfEven (num * Nat.pow 10 places) den)) places)

def fixedSigned (places : Nat) (x : Float) : String :=
  match Binary64.ofFloat x with
  | .nan => "NaN"
  | .infinite false | .finite false _ _ => "+" ++ fixed places x
  | _ => fixed places x

def signedInt (n : Int) : String := if n < 0 then toString n else "+" ++ toString n

/-- Writes digits for JSON: positional between 10 ^ -5 and 10 ^ 16 and always with a point,
else with one digit before the point and an exponent. -/
def Digits.scientific (d : Digits) : String :=
  let digits := toString d.digits
  let place := digits.length + d.exponent
  if 0 ≤ d.exponent ∧ place ≤ 16 then d.positional ++ ".0"
  else if -5 < place ∧ place ≤ 16 then d.positional
  else
    let tail := String.ofList (digits.toList.drop 1)
    String.ofList (digits.toList.take 1) ++ (if tail = "" then "" else "." ++ tail)
      ++ "e" ++ toString (place - 1)

/-- The text of a JSON number; what is not finite has none. Of two texts as near it is the one with
the even last digit. -/
def jsonNumber? (x : Float) : Option String :=
  match Binary64.ofFloat x with
  | .finite negative m q => some (signed negative (shortest .even m q).scientific)
  | _ => none

end Storyline.Decimal
