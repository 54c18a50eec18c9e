import InstallWatch.Text.Trim
import InstallWatch.Decimal.Read

/-!
Whole numbers written in a base, in the widest spelling this library meets: white space around, a sign, a base
mark such as `0x`, digits of any script, and single underscores between digits.
-/

namespace InstallWatch.Numeral
open InstallWatch.Text

/-- Decimal numerals longer than this are refused. -/
def maxDecimalDigits : Nat := 4300

/-- The value of a digit in some base up to thirty-six. -/
def digitValue? (c : Char) : Option Nat :=
  match decimalValue? c with
  | some d => some d
  | none =>
    if 'a' ≤ c ∧ c ≤ 'z' then some (c.toNat - 'a'.toNat + 10)
    else if 'A' ≤ c ∧ c ≤ 'Z' then some (c.toNat - 'A'.toNat + 10)
    else none

def valueOf (base : Nat) (ds : List Nat) : Nat := ds.foldl (fun n d => base * n + d) 0

/-- The letter that may follow a leading zero as the mark of the base. -/
def baseMark? : Nat → Option Char
  | 2 => some 'b'
  | 8 => some 'o'
  | 16 => some 'x'
  | _ => none

/-- The numeral without its base mark, and without an underscore right after the mark. -/
def dropMark (base : Nat) (s : List Char) : List Char :=
  match s with
  | zero :: m :: t =>
    if decimalValue? zero = some 0 ∧ some m.toLower = baseMark? base then
      match t with
      | '_' :: u => u
      | _ => t
    else s
  | _ => s

/-- Why a text is no numeral. -/
inductive Fault where
  | malformed
  /-- A decimal numeral with so many digits. -/
  | tooLong (digits : Nat)
deriving DecidableEq, Repr

/-- What to say of a decimal numeral with too many digits. -/
def lengthRefusal (digits : Nat) : String :=
  "Exceeds the limit (4300 digits) for integer string conversion: value has " ++ toString digits ++
    " digits; use sys.set_int_max_str_digits() to increase the limit"

/-- The value of a digit of a base. -/
def digitOf? (base : Nat) (c : Char) : Option Nat := (digitValue? c).filter (· < base)

/-- No underscore stands at an end, or next to another one. -/
def isWellGrouped (s : List Char) : Bool :=
  s.head? ≠ some '_' && s.getLast? ≠ some '_' && (s.zip s.tail).all fun p => p.1 ≠ '_' || p.2 ≠ '_'

/-- Reads a numeral in a base. The digits are counted before anything that may follow them is looked at. -/
def read (base : Nat) (s : List Char) : Except Fault Int :=
  let (negative, t) := Decimal.takeSign (trim isWhiteSpace s)
  let marked := dropMark base t
  let run := marked.takeWhile fun c => c = '_' || (digitOf? base c).isSome
  let digits := run.filterMap (digitOf? base)
  if !isWellGrouped run then .error .malformed
  else if base = 10 ∧ maxDecimalDigits < digits.length then .error (.tooLong digits.length)
  else if digits.isEmpty || run.length ≠ marked.length then .error .malformed
  else
    let n : Int := valueOf base digits
    .ok (if negative then -n else n)

def read? (base : Nat) (s : List Char) : Option Int := (read base s).toOption

end InstallWatch.Numeral
