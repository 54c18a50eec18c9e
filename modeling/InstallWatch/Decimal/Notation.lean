import InstallWatch.Decimal.Shortest

/-!
How numbers with a fraction are written: the fewest digits that read back, positionally from `10 ^ -4` up
to `10 ^ 16` with at least one digit on each side of the point, otherwise with a signed exponent of two
digits or more.
-/

namespace InstallWatch.Decimal

private def zeros (n : Nat) : String := String.ofList (List.replicate n '0')

/-- Digits with a point after the first `n` of them. -/
private def pointed (n : Nat) (digits : List Char) : String :=
  String.ofList (digits.take n) ++ "." ++ String.ofList (digits.drop n)

def exponentText (e : Int) : String :=
  (if e < 0 then "-" else "+") ++ (if e.natAbs < 10 then "0" else "") ++ toString e.natAbs

def Scaled.text (d : Scaled) : String :=
  let digits := (toString d.digits).toList
  let count := digits.length
  let lead : Int := d.exponent + (count : Int) - 1
  if d.digits = 0 then "0.0"
  else if -4 ≤ lead ∧ lead < 16 then
    if lead < 0 then "0." ++ zeros (-lead - 1).toNat ++ String.ofList digits
    else if (count : Int) - 1 ≤ lead then
      String.ofList digits ++ zeros (lead - count + 1).toNat ++ ".0"
    else pointed (lead + 1).toNat digits
  else
    (if count = 1 then String.ofList digits else pointed 1 digits) ++ "e" ++ exponentText lead

def floatText (x : Float) : String :=
  if x.isNaN then "nan"
  else
    (if isNegative x then "-" else "") ++
      (if x.isInf then "inf" else (Binary.ofFloat x).shortest.text)

end InstallWatch.Decimal
