/-!
Quotients of whole numbers as floating-point numbers have them: rounded to fifty-three binary digits, a half to the
even neighbour, and to whole multiples of the least positive number.
-/

namespace InstallWatch.Decimal

/-- The quotient rounded to a whole number, a half to the even neighbour. -/
def roundedDiv (a b : Nat) : Nat :=
  let q := a / b
  let twice := 2 * (a % b)
  if b < twice ∨ (twice = b ∧ q % 2 = 1) then q + 1 else q

/-- The quotient rounded up to a whole number. -/
def ceilDiv (a b : Nat) : Nat := (a + b - 1) / b

/-- The exponent of the last binary digit that is kept of a quotient: with it the quotient has fifty-three digits,
unless it is so small that it has fewer. -/
def lastPlace (a b : Nat) : Int :=
  let guess : Int := (a.log2 : Int) - b.log2 - 53
  let numerator := a * Nat.pow 2 (-guess).toNat
  let denominator := b * Nat.pow 2 guess.toNat
  max (-1074) (if Nat.pow 2 53 ≤ numerator / denominator then guess + 1 else guess)

/-- The rounded quotient, rounded up to a whole number. -/
def ceilRounded (a b : Nat) : Nat :=
  let e := lastPlace a b
  let m := roundedDiv (a * Nat.pow 2 (-e).toNat) (b * Nat.pow 2 e.toNat)
  ceilDiv (m * Nat.pow 2 e.toNat) (Nat.pow 2 (-e).toNat)

end InstallWatch.Decimal
