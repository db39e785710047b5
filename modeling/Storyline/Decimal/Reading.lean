/-!
Reading decimal text as a binary64 number: an optional sign, digits with an optional point, an
optional exponent, or a word for infinity or not-a-number in any letter case. Whole numbers are read
by themselves, of any size.
-/
namespace Storyline.Decimal

def digitValue (c : Char) : Nat := c.toNat - '0'.toNat

def naturalOf (digits : List Char) : Nat := digits.foldl (fun n c => 10 * n + digitValue c) 0

def negateIf (negative : Bool) (x : Float) : Float := if negative then -x else x

def takeSign : List Char → Bool × List Char
  | '-' :: rest => (true, rest)
  | '+' :: rest => (false, rest)
  | cs => (false, cs)

/-- The binary64 number nearest to significand · 10 ^ exponent. -/
def nearest (significand : Nat) (exponent : Int) : Float :=
  let place := (toString significand).length + exponent
  if significand = 0 ∨ place < -400 then 0.0
  else if 400 < place then 1.0 / 0.0
  else Float.ofScientific significand (exponent < 0) exponent.natAbs

def exponent? : List Char → Option Int
  | [] => some 0
  | c :: rest =>
    if c = 'e' ∨ c = 'E' then
      let (negative, digits) := takeSign rest
      if digits ≠ [] ∧ digits.all Char.isDigit then
        some (if negative then -naturalOf digits else naturalOf digits)
      else none
    else none

def unsigned? (cs : List Char) : Option Float :=
  let whole := cs.takeWhile Char.isDigit
  let rest := cs.dropWhile Char.isDigit
  let (places, rest) := match rest with
    | '.' :: more => (more.takeWhile Char.isDigit, more.dropWhile Char.isDigit)
    | _ => ([], rest)
  if whole ++ places = [] then none
  else (exponent? rest).map fun e => nearest (naturalOf (whole ++ places)) (e - places.length)

def read? (text : String) : Option Float :=
  let (negative, cs) := takeSign text.toList
  let word := String.ofList (cs.map Char.toLower)
  if word = "inf" ∨ word = "infinity" then some (negateIf negative (1.0 / 0.0))
  else if word = "nan" then some (0.0 / 0.0)
  else (unsigned? cs).map (negateIf negative)

def integer? (text : String) : Option Int :=
  let (negative, digits) := takeSign text.toList
  if digits ≠ [] ∧ digits.all Char.isDigit then
    some (if negative then -naturalOf digits else naturalOf digits)
  else none

end Storyline.Decimal
