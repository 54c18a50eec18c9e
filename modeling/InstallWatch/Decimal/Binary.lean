/-!
Binary floating-point numbers as exact numbers: which multiple of a power of two the bits stand for, and
which decimals round to it.
-/

namespace InstallWatch.Decimal

/-- The finite number `m * 2 ^ q` without its sign. -/
structure Binary where
  m : Nat
  q : Int
  /-- The gap to the number below is half the gap to the number above. -/
  narrow : Bool

/-- The size of a finite number; the sign bit is left out. -/
def Binary.ofFloat (x : Float) : Binary :=
  let bits : Nat := x.toBits.toNat
  let exponent : Nat := bits / Nat.pow 2 52 % Nat.pow 2 11
  let fraction : Nat := bits % Nat.pow 2 52
  if exponent = 0 then ⟨fraction, -1074, false⟩
  else ⟨Nat.pow 2 52 + fraction, (exponent : Int) - 1075, fraction = 0 && 1 < exponent⟩

def isNegative (x : Float) : Bool := x.toBits.toNat / Nat.pow 2 63 = 1

/-- Compares `a * 10 ^ g` with `b * 2 ^ q`, exactly. -/
def compareScaled (a : Nat) (g : Int) (b : Nat) (q : Int) : Ordering :=
  compare (a * Nat.pow 10 g.toNat * Nat.pow 2 (-q).toNat) (b * Nat.pow 2 q.toNat * Nat.pow 10 (-g).toNat)

/-- Whether `d * 10 ^ g` rounds to the number: it lies between the halfway points to both
neighbours, and the halfway points themselves belong to an even `m`. -/
def Binary.readsBack (x : Binary) (d : Nat) (g : Int) : Bool :=
  let low := compareScaled d g (if x.narrow then 4 * x.m - 1 else 4 * x.m - 2) (x.q - 2)
  let high := compareScaled d g (4 * x.m + 2) (x.q - 2)
  let even := x.m % 2 = 0
  (low = .gt || (even && low = .eq)) && (high = .lt || (even && high = .eq))

/-- The whole multiples of `10 ^ g` in the number. -/
def Binary.onGrid (x : Binary) (g : Int) : Nat :=
  (x.m * Nat.pow 2 x.q.toNat * Nat.pow 10 (-g).toNat) / (Nat.pow 2 (-x.q).toNat * Nat.pow 10 g.toNat)

end InstallWatch.Decimal
