/-!
Days and moments of the proleptic Gregorian calendar, years 1 to 9999, their ISO texts, and what is wrong with
those that there are not. A moment may name its offset from universal time; two that do are the same moment if
they agree there.
-/

namespace InstallWatch

/-- Why there is no such day or moment. -/
inductive CalendarFault where
  /-- An offset of a day or more, in minutes. -/
  | offset (minutes : Int)
  | year (n : Nat)
  | month
  | day
  | hour
  | minute
  | second
deriving DecidableEq, Repr

/-- A length of time as whole days, which may be negative, and seconds of one more day. -/
def spanText (minutes : Int) : String :=
  let seconds := minutes * 60
  let days := Int.fdiv seconds 86400
  let rest := Int.fmod seconds 86400
  let parts := (if days = 0 then [] else ["days=" ++ toString days]) ++
    (if rest = 0 then [] else ["seconds=" ++ toString rest])
  "datetime.timedelta(" ++ (if parts.isEmpty then "0" else ", ".intercalate parts) ++ ")"

def CalendarFault.message : CalendarFault → String
  | offset minutes =>
    "offset must be a timedelta strictly between -timedelta(hours=24) and timedelta(hours=24), not " ++
      spanText minutes ++ "."
  | year n => "year " ++ toString n ++ " is out of range"
  | month => "month must be in 1..12"
  | day => "day is out of range for month"
  | hour => "hour must be in 0..23"
  | minute => "minute must be in 0..59"
  | second => "second must be in 0..59"

structure Date where
  year : Nat
  month : Nat
  day : Nat
deriving DecidableEq, Repr

namespace Date

def isLeap (year : Nat) : Bool := year % 4 = 0 && (year % 100 ≠ 0 || year % 400 = 0)

def monthLength (year : Nat) : Nat → Nat
  | 2 => if isLeap year then 29 else 28
  | 4 | 6 | 9 | 11 => 30
  | _ => 31

/-- The first of year, month and day that is out of its range. -/
def fault? (d : Date) : Option CalendarFault :=
  if d.year < 1 ∨ 9999 < d.year then some (.year d.year)
  else if d.month < 1 ∨ 12 < d.month then some .month
  else if d.day < 1 ∨ monthLength d.year d.month < d.day then some .day
  else none

/-- Days since the first of March of the year zero. -/
def dayNumber (d : Date) : Nat :=
  let y := if d.month ≤ 2 then d.year - 1 else d.year
  let m := (d.month + 9) % 12
  365 * y + y / 4 - y / 100 + y / 400 + (153 * m + 2) / 5 + d.day - 1

end Date

/-- Digits with zeros in front up to the width. -/
def padded (width n : Nat) : String :=
  let ds := toString n
  String.ofList (List.replicate (width - ds.length) '0') ++ ds

def Date.text (d : Date) : String := padded 4 d.year ++ "-" ++ padded 2 d.month ++ "-" ++ padded 2 d.day

structure Moment where
  date : Date
  hour : Nat
  minute : Nat
  second : Nat
  microsecond : Nat
  /-- Minutes east of universal time. -/
  offset : Option Int
deriving DecidableEq, Repr

namespace Moment

/-- What is wrong with the offset, or else with the day, or else with the clock. -/
def fault? (t : Moment) : Option CalendarFault :=
  let offset := match t.offset with
    | some m => if 1440 ≤ m.natAbs then some (CalendarFault.offset m) else none
    | none => none
  offset.or <| t.date.fault?.or <|
    if 23 < t.hour then some .hour
    else if 59 < t.minute then some .minute
    else if 59 < t.second then some .second
    else none

/-- Microseconds of universal time since the first of March of the year zero. -/
def instant? (t : Moment) : Option Int :=
  t.offset.map fun m =>
    ((((t.date.dayNumber : Int) * 24 + t.hour) * 60 + t.minute - m) * 60 + t.second) * 1000000
      + t.microsecond

/-- The same moment: by instant if both name an offset, by the clock's face if neither does. -/
def same (s t : Moment) : Bool :=
  match s.instant?, t.instant? with
  | some i, some j => i = j
  | none, none => s = t
  | _, _ => false

def offsetText (m : Int) : String :=
  (if m < 0 then "-" else "+") ++ padded 2 (m.natAbs / 60) ++ ":" ++ padded 2 (m.natAbs % 60)

def text (t : Moment) : String :=
  t.date.text ++ "T" ++ padded 2 t.hour ++ ":" ++ padded 2 t.minute ++ ":" ++ padded 2 t.second ++
    (if t.microsecond = 0 then "" else "." ++ padded 6 t.microsecond) ++
    (match t.offset with
      | none => ""
      | some m => offsetText m)

end InstallWatch.Moment
