import InstallWatch.Data
import InstallWatch.Text.Base64
import InstallWatch.Text.Casing
import InstallWatch.Text.Lower
import InstallWatch.Yaml.Flaw
import InstallWatch.Yaml.Scalar

/-!
What scalars stand for, by their tags.
-/

namespace InstallWatch.Yaml.Scalar
open InstallWatch.Text

def flag (s : String) : Except Flaw Data :=
  let w := lowered s
  if ["yes", "true", "on"].contains w then .ok (.bool true)
  else if ["no", "false", "off"].contains w then .ok (.bool false)
  else .error .unknownWord

/-- The sign of a number that has something behind it, and the rest without underscores. -/
def signedRest (s : List Char) : Except Flaw (Bool × List Char) :=
  match s.filter (· ≠ '_') with
  | [] => .error .emptyNumber
  | '-' :: t => .ok (true, t)
  | '+' :: t => .ok (false, t)
  | t => .ok (false, t)

def numeral (base : Nat) (s : List Char) : Except Flaw Int := (Numeral.read base s).mapError (.notWhole base s)

def whole (s : String) : Except Flaw Data := do
  let (negative, t) ← signedRest s.toList
  let n ← match t with
    | [] => .error .emptyNumber
    | ['0'] => .ok 0
    | '0' :: 'b' :: u => numeral 2 u
    | '0' :: 'x' :: u => numeral 16 u
    | '0' :: _ => numeral 8 t
    | _ =>
      if t.contains ':' then do
        let parts ← (splitAt ':' t).mapM (numeral 10)
        pure (parts.foldl (fun n d => 60 * n + d) 0)
      else numeral 10 t
  return .int (if negative then -n else n)

/-- A number as it may be written in any script, white space around it. -/
def decimal (s : List Char) : Except Flaw Float :=
  let digits := (trim isWhiteSpace s).map fun c => match decimalValue? c with
    | some d => Char.ofNat ('0'.toNat + d)
    | none => c
  match Decimal.read? digits with
  | some x => .ok x
  | none => .error (.notNumber s)

/-- The value of digits in sixties, the last one first, each a place further to the left. -/
def sixties (place : Nat) (sum : Float) : List Float → Except Flaw Float
  | [] => .ok sum
  | d :: ds =>
    let weight := Float.ofNat place
    if weight.isInf then .error .hugePlace else sixties (60 * place) (sum + d * weight) ds

/-- The word for what is no number, without its sign and in lower case. -/
def noNumber : List Char := ".nan".toList

/-- The sign and the rest of what is to be a number, in lower case. -/
def numberRest (s : String) : Except Flaw (Bool × List Char) :=
  (signedRest s.toList).map fun (negative, t) => (negative, lowerCase t)

def number (s : String) : Except Flaw Float := do
  let (negative, t) ← numberRest s
  let x ← if t = ".inf".toList then .ok (1.0 / 0.0)
    else if t = noNumber then return 0.0 / 0.0
    else if t.contains ':' then do
      let parts ← (splitAt ':' t).mapM decimal
      sixties 1 0.0 parts.reverse
    else decimal t
  return if negative then -x else x

/-- Whether a number is no number by the word for that, and not by a reading of digits. -/
def isNoNumberWord (s : String) : Bool :=
  match numberRest s with
  | .ok (_, t) => t = noNumber
  | .error _ => false

def binary (s : String) : Except Flaw Data :=
  if s.toList.any fun c => 0x7F < c.toNat then .error .malformed
  else match decodeBase64 s.toList with
    | some b => .ok (.bytes b)
    | none => .error .malformed

/-- The first six digits of a fraction, as millionths. -/
def millionths (ds : List Char) : Nat :=
  let six := ds.take 6
  Decimal.digitsValue (six ++ List.replicate (6 - six.length) '0')

def time (s : String) : Except Flaw Data :=
  match Look.stamp? (Look.dropFinalBreak s.toList) with
  | none => .error .notTime
  | some t =>
    let date : Date := ⟨t.year, t.month, t.day⟩
    match t.clock with
    | none => match date.fault? with
      | some f => .error (.noSuchTime f)
      | none => .ok (.date date)
    | some (h, m, sec) =>
      let offset := t.zone.map fun z => match z with
        | none => 0
        | some (negative, zh, zm) =>
          let minutes : Int := zh * 60 + zm
          if negative then -minutes else minutes
      let moment : Moment := ⟨date, h, m, sec, millionths t.fraction, offset⟩
      match moment.fault? with
      | some f => .error (.noSuchTime f)
      | none => .ok (.moment moment)

/-- What a scalar with a tag stands for; nothing if the tag is for no scalar. -/
def read (tag : Tag) (s : String) : Except Flaw Data :=
  if tag = Tag.str then .ok (.text s)
  else if tag = Tag.nullTag then .ok .null
  else if tag = Tag.bool then flag s
  else if tag = Tag.int then whole s
  else if tag = Tag.float then (number s).map .float
  else if tag = Tag.timestamp then time s
  else if tag = Tag.binary then binary s
  else .error .malformed

end InstallWatch.Yaml.Scalar
