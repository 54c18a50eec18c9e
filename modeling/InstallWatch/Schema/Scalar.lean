import InstallWatch.Data
import InstallWatch.Numeral
import InstallWatch.Schema.Checked
import InstallWatch.Text.Lower
import InstallWatch.Text.Trim

/-!
Reading scalars leniently: a field that wants a number takes the text of one, and a number without a
fraction is a whole number. Texts stay texts: no number is taken for one.
-/

namespace InstallWatch.Schema
open InstallWatch.Text

def text : Data → Checked String
  | .text s => .accepted s
  | .bytes b => match textOfUtf8? b with
    | some s => .accepted s
    | none => .fault .notUtf8
  | _ => .fault .notText

/-- A value read from the characters of a scalar that is written as text: the complaints are that it is not, and
that its bytes are no text. -/
def spelled {α : Type} (notSpelled unreadable : Complaint) (read : List Char → Checked α) :
    Data → Checked α
  | .text s => match chars? s.toList with
    | some cs => read cs
    | none => .fault .notUtf8
  | .bytes b => match decodeUtf8 b with
    | some cs => read cs
    | none => .fault unreadable
  | _ => .fault notSpelled

/-- What a text is to one who reads whole numbers without any ornament. -/
inductive PlainWhole where
  | number (n : Int)
  /-- A number with too many characters, whatever stands behind it. -/
  | tooLong
  | other

/-- Digits without zeros in front, and perhaps a minus sign. -/
def plainWhole (s : List Char) : PlainWhole :=
  let (negative, digits) := match s with
    | '-' :: t => (true, t)
    | _ => (false, s)
  let run := digits.takeWhile Decimal.isDigit
  if digits = ['0'] then .number 0
  else if run.isEmpty ∨ run.head? = some '0' then .other
  else if Numeral.maxDecimalDigits < run.length + (if negative then 1 else 0) then .tooLong
  else if run.length < digits.length then .other
  else
    let n : Int := Decimal.digitsValue digits
    .number (if negative then -n else n)

/-- A zero in front goes, with all zeros and underscores behind it, up to another digit or a minus sign. In front
of a point the last one of them stays, and so it does if there is nothing else. -/
def dropLeadingZeros? (s : List Char) : Option (List Char) :=
  let isFiller (c : Char) : Bool := c = '0' || c = '_'
  let isStart (c : Char) : Bool := Decimal.isDigit c || c = '-'
  match s with
  | '0' :: t =>
    let last := (('0' :: t.takeWhile isFiller).getLast?).toList
    match t.dropWhile isFiller with
    | [] => some last
    | '.' :: u => some (last ++ '.' :: u)
    | c :: u => if isStart c then some (c :: u) else none
  | c :: _ => if isStart c then some s else none
  | [] => none

/-- A fraction of nothing but zeros goes. -/
def dropZeroFraction (s : List Char) : List Char :=
  match s.dropWhile (· ≠ '.') with
  | '.' :: t => if t ≠ [] && t.all (· = '0') then s.takeWhile (· ≠ '.') else s
  | _ => s

/-- Single underscores between other characters go; other underscores are not allowed. -/
def dropUnderscores? (s : List Char) : Option (List Char) :=
  if Numeral.isWellGrouped s then some (s.filter (· ≠ '_')) else none

/-- The plain form of a whole number with ornaments: white space around it, a plus sign, zeros in front and behind
a point, and underscores. One sign is enough in front of the zeros. -/
def bareWhole? (s : List Char) : Option (List Char) := do
  let (negative, t) := Decimal.takeSign (trim isWhiteSpace s)
  if t.head? = some '+' ∨ t.head? = some '-' then none
  let digits ← dropUnderscores? (dropZeroFraction (← dropLeadingZeros? t))
  return if negative then '-' :: digits else digits

/-- A whole number as a text. Only one that comes without ornaments is told that it is too long. -/
def wholeOfText (s : List Char) : Checked Int :=
  match plainWhole s with
  | .number n => .accepted n
  | .tooLong => .fault .tooManyDigits
  | .other => match (bareWhole? s).map plainWhole with
    | some (.number n) => .accepted n
    | _ => .fault .unreadableWhole

/-- Machine words of sixty-four bits, signed. -/
def isWord (n : Int) : Bool := -Nat.pow 2 63 ≤ n && n < Nat.pow 2 63

def whole (d : Data) : Checked Int :=
  match d with
  | .bool b => .accepted (if b then 1 else 0)
  | .int n => .accepted n
  | .float x =>
    if x.isNaN || x.isInf then .fault .notFinite
    else match Data.wholeFloat? x with
      | none => .fault .fractional
      | some n => if n.natAbs < Nat.pow 2 63 then .accepted n else .fault .tooManyDigits
  | d => spelled .notWhole .unreadableWhole wholeOfText d

def numberOfText (s : List Char) : Checked Float :=
  match Decimal.read? (trim isWhiteSpace s) with
  | some x => .accepted x
  | none =>
    if s.contains '_' then
      match (dropUnderscores? s).bind Decimal.read? with
      | some x => .accepted x
      | none => .fault .unreadableNumber
    else .fault .unreadableNumber

def number (d : Data) : Checked Float :=
  match d with
  | .bool b => .accepted (if b then 1.0 else 0.0)
  | .int n =>
    let x := Decimal.signed (n < 0) (Decimal.nearest n.natAbs 0)
    if x.isInf then .fault .notNumber else .accepted x
  | .float x => .accepted x
  | d => spelled .notNumber .unreadableNumber numberOfText d

def onWords : List String := ["1", "on", "t", "true", "y", "yes"]

def offWords : List String := ["0", "off", "f", "false", "n", "no"]

def flagOfText (s : List Char) : Checked Bool :=
  let word := String.ofList (lower s)
  if onWords.contains word then .accepted true
  else if offWords.contains word then .accepted false
  else .fault .unreadableFlag

def flagOfWhole (n : Int) : Checked Bool :=
  if n = 0 then .accepted false else if n = 1 then .accepted true else .fault .unreadableFlag

def flag (d : Data) : Checked Bool :=
  match d with
  | .bool b => .accepted b
  | .int n => if isWord n then flagOfWhole n else .fault .notFlag
  | .float x => match Data.wholeFloat? x with
    | some n => if n.natAbs < Nat.pow 2 63 then flagOfWhole n else .fault .notFlag
    | none => .fault .notFlag
  | d => spelled .notFlag .unreadableFlag flagOfText d

/-- Null, or what the check accepts. -/
def optional {α : Type} (check : Data → Checked α) : Data → Checked (Option α)
  | .null => .accepted none
  | d => (check d).map some

/-- A number above the bound. -/
def above (bound : Nat) (d : Data) : Checked Float :=
  (number d).andThen fun x =>
    if Float.ofNat bound < x then .accepted x else .fault (.notAbove bound)

/-- A whole number at or above the bound. -/
def atLeast (bound : Nat) (d : Data) : Checked Int :=
  (whole d).andThen fun n => if (bound : Int) ≤ n then .accepted n else .fault (.below bound)

end InstallWatch.Schema
