import InstallWatch.Text.Ranges

/-!
Reading decimal numbers. Every format has its own idea of blanks, signs and separators; what they share is
here: digits, a fraction, an exponent, and the rounding to the nearest floating-point number.
-/

namespace InstallWatch.Decimal

def isDigit (c : Char) : Bool := '0' ≤ c && c ≤ '9'

def digitsValue (ds : List Char) : Nat := ds.foldl (fun n c => 10 * n + (c.toNat - '0'.toNat)) 0

/-- Rounds `digits * 10 ^ exponent`. Numbers far outside the range need no arithmetic. -/
def nearest (digits : Nat) (exponent : Int) : Float :=
  let size : Int := exponent + ((digits.log2 : Int) * 30103 / 100000 : Int)
  if digits = 0 then 0.0
  else if 400 < size then 1.0 / 0.0
  else if size < -400 then 0.0
  else Float.ofScientific digits (exponent < 0) exponent.natAbs

/-- A sign and what follows it. -/
def takeSign : List Char → Bool × List Char
  | '-' :: s => (true, s)
  | '+' :: s => (false, s)
  | s => (false, s)

/-- The exponent part that a text starts with, which may be missing: its value and its length. An exponent
mark without digits is no exponent. -/
def exponentPart (s : List Char) : Int × Nat :=
  match s with
  | c :: t =>
    if c = 'e' ∨ c = 'E' then
      let (negative, u) := takeSign t
      let ds := u.takeWhile isDigit
      if ds.isEmpty then (0, 0)
      else
        let sign := match t with
          | '-' :: _ | '+' :: _ => 1
          | _ => 0
        ((if negative then -(digitsValue ds : Int) else digitsValue ds), 1 + sign + ds.length)
    else (0, 0)
  | [] => (0, 0)

def signed (negative : Bool) (x : Float) : Float := if negative then -x else x

/-- An unsigned numeral: digits on at least one side of the point, and perhaps an exponent. -/
def readUnsigned? (s : List Char) : Option Float :=
  let whole := s.takeWhile isDigit
  let rest := s.dropWhile isDigit
  let (fraction, rest) := match rest with
    | '.' :: t => (t.takeWhile isDigit, t.dropWhile isDigit)
    | _ => ([], rest)
  if whole.isEmpty && fraction.isEmpty then none
  else
    let (exponent, n) := exponentPart rest
    if (rest.drop n).isEmpty then
      some (nearest (digitsValue (whole ++ fraction)) (exponent - fraction.length))
    else none

/-- A numeral with an optional sign, or one of the words for infinity and for no number. -/
def read? (s : List Char) : Option Float :=
  let (negative, t) := takeSign s
  let word := String.ofList (t.map Char.toLower)
  if word = "inf" ∨ word = "infinity" then some (signed negative (1.0 / 0.0))
  else if word = "nan" then some (0.0 / 0.0)
  else (readUnsigned? t).map (signed negative)

end InstallWatch.Decimal
