import InstallWatch.Calendar
import InstallWatch.Decimal.Read
import InstallWatch.Text.Trim
import InstallWatch.Yaml.Node

/-!
Which tag a plain scalar has by its look: null, a flag, a number, a time, the merge key or the value key, and
otherwise text. The looks do not overlap.
-/

namespace InstallWatch.Yaml.Look
open InstallWatch.Text

/-- The text without one line feed at its end. -/
def dropFinalBreak (s : List Char) : List Char := if s.getLast? = some '\n' then s.dropLast else s

def isNull (s : String) : Bool := ["", "~", "null", "Null", "NULL"].contains s

def isFlag (s : String) : Bool :=
  ["yes", "Yes", "YES", "no", "No", "NO", "true", "True", "TRUE", "false", "False", "FALSE",
    "on", "On", "ON", "off", "Off", "OFF"].contains s

def isDigit (c : Char) : Bool := Decimal.isDigit c

/-- A digit, and then digits and underscores. -/
def isNumeral : List Char → Bool
  | c :: s => isDigit c && s.all fun c => isDigit c || c = '_'
  | [] => false

/-- A number below sixty in one or two digits. -/
def isSixtieth : List Char → Bool
  | [c] => isDigit c
  | [a, b] => '0' ≤ a && a ≤ '5' && isDigit b
  | _ => false

def dropSign : List Char → List Char
  | '-' :: s => s
  | '+' :: s => s
  | s => s

/-- A whole number: binary, octal, decimal, hexadecimal, or in sixties. -/
def isInt (s : List Char) : Bool :=
  match dropSign s with
  | '0' :: 'b' :: t => t ≠ [] && t.all fun c => c = '0' || c = '1' || c = '_'
  | '0' :: 'x' :: t => t ≠ [] && t.all fun c => (hexValue? c).isSome || c = '_'
  | '0' :: t => t.all fun c => ('0' ≤ c && c ≤ '7') || c = '_'
  | t => match splitAt ':' t with
    | leader :: more => isNumeral leader && more.all isSixtieth
    | [] => false

/-- An exponent with its sign, or nothing. -/
def isExponent : List Char → Bool
  | [] => true
  | e :: sign :: ds => (e = 'e' || e = 'E') && (sign = '-' || sign = '+') && ds ≠ [] && ds.all isDigit
  | _ => false

/-- Digits and underscores, and perhaps an exponent. -/
def isFraction (s : List Char) : Bool := isExponent (s.dropWhile fun c => isDigit c || c = '_')

def isInfinity (s : List Char) : Bool :=
  [".inf".toList, ".Inf".toList, ".INF".toList].contains s

def isNotNumber (s : List Char) : Bool :=
  [".nan".toList, ".NaN".toList, ".NAN".toList].contains s

/-- A number with a point. Without digits in front of the point there is no sign. -/
def isFloat (s : List Char) : Bool :=
  isNotNumber s || isInfinity (dropSign s) ||
    (match s with
      | '.' :: c :: t => isDigit c && isFraction t
      | _ => false) ||
    (match (dropSign s).dropWhile (· ≠ '.') with
      | '.' :: fraction =>
        match splitAt ':' ((dropSign s).takeWhile (· ≠ '.')) with
        | [whole] => isNumeral whole && isFraction fraction
        | leader :: more =>
          isNumeral leader && more.all isSixtieth && fraction.all fun c => isDigit c || c = '_'
        | [] => false
      | _ => false)

/-- The numbers in the text of a time. -/
structure Stamp where
  year : Nat
  month : Nat
  day : Nat
  clock : Option (Nat × Nat × Nat)
  fraction : List Char
  /-- The sign, hours and minutes of an offset; universal time has none of them. -/
  zone : Option (Option (Bool × Nat × Nat))
  /-- Month and day have two digits each. -/
  wide : Bool

/-- Between `least` and `most` digits at the start. -/
def takeDigits? (least most : Nat) (s : List Char) : Option (List Char × List Char) :=
  let ds := (s.take most).takeWhile isDigit
  if ds.length < least then none else some (ds, s.drop ds.length)

def takeChar? (c : Char) : List Char → Option (List Char)
  | d :: s => if d = c then some s else none
  | [] => none

def isGap (c : Char) : Bool := c = ' ' || c = '\t'

/-- The offset at the end of a time. -/
def zone? (s : List Char) : Option (Option (Option (Bool × Nat × Nat))) :=
  match s.dropWhile isGap with
  | [] => if s = [] then some none else none
  | ['Z'] => some (some none)
  | sign :: t =>
    if sign = '-' || sign = '+' then do
      let (h, t) ← takeDigits? 1 2 t
      match t with
      | [] => return some (some (sign = '-', Decimal.digitsValue h, 0))
      | ':' :: t =>
        let (m, t) ← takeDigits? 2 2 t
        if t = [] then some (some (some (sign = '-', Decimal.digitsValue h, Decimal.digitsValue m)))
        else none
      | _ => none
    else none

/-- The parts of a time: a day, and perhaps a clock with a fraction and an offset. -/
def stamp? (s : List Char) : Option Stamp := do
  let (y, s) ← takeDigits? 4 4 s
  let s ← takeChar? '-' s
  let (m, s) ← takeDigits? 1 2 s
  let s ← takeChar? '-' s
  let (d, s) ← takeDigits? 1 2 s
  let wide := m.length = 2 && d.length = 2
  let (y, m, d) := (Decimal.digitsValue y, Decimal.digitsValue m, Decimal.digitsValue d)
  match s with
  | [] => return ⟨y, m, d, none, [], none, wide⟩
  | c :: t =>
    if c ≠ 'T' && c ≠ 't' && !isGap c then none
    let (hh, t) ← takeDigits? 1 2 (if isGap c then t.dropWhile isGap else t)
    let t ← takeChar? ':' t
    let (mm, t) ← takeDigits? 2 2 t
    let t ← takeChar? ':' t
    let (ss, t) ← takeDigits? 2 2 t
    let (fraction, t) := match t with
      | '.' :: u => (u.takeWhile isDigit, u.dropWhile isDigit)
      | _ => ([], t)
    let zone ← zone? t
    let clock := (Decimal.digitsValue hh, Decimal.digitsValue mm, Decimal.digitsValue ss)
    return ⟨y, m, d, some clock, fraction, zone, wide⟩

/-- A time; a day alone needs two digits for month and day. -/
def isTimestamp (s : List Char) : Bool :=
  match stamp? s with
  | some t => t.clock.isSome || t.wide
  | none => false

/-- The tag of a plain scalar. -/
def tagOf (s : String) : Tag :=
  let t := dropFinalBreak s.toList
  if s = "" then Tag.nullTag
  else if isFlag (String.ofList t) then Tag.bool
  else if isFloat t then Tag.float
  else if isInt t then Tag.int
  else if t = ['<', '<'] then Tag.merge
  else if t ≠ [] && isNull (String.ofList t) then Tag.nullTag
  else if isTimestamp t then Tag.timestamp
  else if t = ['='] then Tag.value
  else Tag.str

end InstallWatch.Yaml.Look
