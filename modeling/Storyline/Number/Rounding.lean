/-! Rounding of a quotient of natural numbers, and of a natural number to its leading binary digits. -/
namespace Storyline.Rounding

def halfEven (num den : Nat) : Nat :=
  let quotient := num / den
  let twice := 2 * (num % den)
  if twice < den then quotient
  else if den < twice then quotient + 1
  else if quotient % 2 = 0 then quotient else quotient + 1

def halfUp (num den : Nat) : Nat := (2 * num + den) / (2 * den)

inductive Tie where
  | up
  | even

def nearest : Tie → Nat → Nat → Nat
  | .up => halfUp
  | .even => halfEven

/-- The number kept to its first digits in base two, the rest rounded away with ties to even. -/
def toLeadingBits (digits n : Nat) : Nat :=
  let excess := (n.log2 + 1) - digits
  halfEven n (Nat.pow 2 excess) * Nat.pow 2 excess

end Storyline.Rounding
