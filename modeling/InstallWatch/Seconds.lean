import InstallWatch.Decimal.Quotient

/-!
Numbers that measure time in seconds: readings of a clock, and lengths of time. Programs run with machine
numbers; exact numbers measure time as well, and obey laws that rounding breaks.
-/

namespace InstallWatch

class Seconds (T : Type) extends Add T, Sub T, LT T where
  zero : T
  /-- A whole number of seconds, unless it is beyond the range. -/
  ofNat? : Nat → Option T
  ofFloat : Float → T
  /-- How often one whole number goes into another, as these numbers reckon, rounded up. -/
  times : Nat → Nat → Nat
  /-- The longest time that can be waited for something. -/
  longestWait : T
  /-- The last reading of a clock. Nobody can sleep for longer than it has to go from its start. -/
  clockEnd : T
  decLt : DecidableLT T

instance instDecidableLT {T : Type} [Seconds T] : DecidableLT T := Seconds.decLt

namespace Seconds

instance : Seconds Float where
  zero := 0.0
  ofNat? n := if (Float.ofNat n).isInf then none else some (Float.ofNat n)
  ofFloat := id
  times interval timeout := Decimal.ceilRounded timeout interval
  longestWait := 9223372036.854774
  clockEnd := 9223372036.854774
  decLt := inferInstance

variable {T : Type} [Seconds T]

/-- What is left from one reading to another, and nothing if the other lies behind. -/
def left (now deadline : T) : T := if zero < deadline - now then deadline - now else zero

/-- The shorter of two times, the first if neither is. -/
def shorter (a b : T) : T := if b < a then b else a

/-- The later of two readings, the first if neither is. -/
def later (a b : T) : T := if a < b then b else a

end InstallWatch.Seconds
