import InstallWatch.Text.Trim
import InstallWatch.Decimal.Read

/-!
IPv4 addresses in dotted form: four decimal numbers below 256, each without leading zeros, so that every
address has one spelling.
-/

namespace InstallWatch.Address

structure V4 where
  a : Fin 256
  b : Fin 256
  c : Fin 256
  d : Fin 256
deriving DecidableEq, Repr

namespace V4
open InstallWatch.Text

def octet? (s : List Char) : Option (Fin 256) :=
  if s = [] ∨ ¬ s.all Decimal.isDigit ∨ 3 < s.length ∨ (s ≠ ['0'] ∧ s.head? = some '0') then none
  else if h : Decimal.digitsValue s < 256 then some ⟨_, h⟩
  else none

def parse? (s : List Char) : Option V4 :=
  match splitAt '.' s with
  | [a, b, c, d] => do return ⟨← octet? a, ← octet? b, ← octet? c, ← octet? d⟩
  | _ => none

def octetText (n : Fin 256) : List Char := Nat.toDigits 10 n

def text (x : V4) : List Char :=
  octetText x.a ++ '.' :: octetText x.b ++ '.' :: octetText x.c ++ '.' :: octetText x.d

/-- The address as two numbers below `2 ^ 16`, high one first. -/
def halves (x : V4) : Nat × Nat := (x.a * 256 + x.b, x.c * 256 + x.d)

end InstallWatch.Address.V4
