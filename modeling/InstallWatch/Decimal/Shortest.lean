import InstallWatch.Decimal.Binary

/-!
The shortest decimal that reads back to a floating-point number: the coarsest decimal grid on which a
neighbour of the number rounds to it, and of two such neighbours the nearer one.
-/

namespace InstallWatch.Decimal

/-- The decimal `digits * 10 ^ exponent`. -/
structure Scaled where
  digits : Nat
  exponent : Int
deriving DecidableEq, Repr

/-- The least `k` at or above the start with the number below `10 ^ k`, in a few steps. -/
private def scaleFrom (x : Binary) (k : Int) : Nat → Int
  | 0 => k
  | steps + 1 => if compareScaled 1 k x.m x.q = .gt then k else scaleFrom x (k + 1) steps

/-- The number of digits before the point, counted negatively for zeros after it. -/
def Binary.scale (x : Binary) : Int :=
  scaleFrom x (Int.fdiv (((x.m.log2 : Int) + x.q) * 30103) 100000 - 1) 5

/-- The neighbour of the number on the grid of `10 ^ g` that reads back, if one does. -/
def Binary.candidate? (x : Binary) (g : Int) : Option Scaled :=
  let d := x.onGrid g
  match x.readsBack d g && d ≠ 0, x.readsBack (d + 1) g with
  | true, true =>
    -- Halfway goes to the even digit.
    match compareScaled (2 * d + 1) g (2 * x.m) x.q with
    | .gt => some ⟨d, g⟩
    | .lt => some ⟨d + 1, g⟩
    | .eq => some ⟨if d % 2 = 0 then d else d + 1, g⟩
  | true, false => some ⟨d, g⟩
  | false, true => some ⟨d + 1, g⟩
  | false, false => none

/-- The number itself, written out. -/
def Binary.exact (x : Binary) : Scaled :=
  if 0 ≤ x.q then ⟨x.m * Nat.pow 2 x.q.toNat, 0⟩ else ⟨x.m * Nat.pow 5 (-x.q).toNat, x.q⟩

/-- Trailing zeros of the digits moved into the exponent. -/
def Scaled.strip (d : Scaled) : Nat → Scaled
  | 0 => d
  | steps + 1 =>
    if d.digits % 10 = 0 && d.digits ≠ 0 then strip ⟨d.digits / 10, d.exponent + 1⟩ steps else d

def Binary.shortest (x : Binary) : Scaled :=
  if x.m = 0 then ⟨0, 0⟩
  else
    let k := x.scale
    let found := (List.range 17).findSome? fun i => x.candidate? (k - (i + 1 : Nat))
    (found.getD x.exact).strip 400

end InstallWatch.Decimal
