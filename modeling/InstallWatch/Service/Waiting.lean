import InstallWatch.Service.Server

/-!
How the wait for a request comes to an end: with the request, with the lifetime of whoever waits, or at once, since
nobody can wait for so long. What happens to the request before the wait begins is found done, and only what is left
of the lifetime then is waited for.
-/

namespace InstallWatch.Service

/-- What a wait ends with. -/
inductive Waited where
  /-- The request has ended. -/
  | ended
  /-- The request goes on, and nobody waits for it any more. -/
  | givenUp
  /-- The request has not been taken up, and never will be. -/
  | takenBack
  /-- There is no waiting for as long as the lifetime lasts. -/
  | refused
deriving DecidableEq, Repr

/-- How the wait for a request goes. -/
structure Course (T : Type) where
  waited : Waited
  /-- The request has been taken up by the end of the wait. -/
  isSent : Bool
  /-- When the wait ends. -/
  time : T
  /-- Whoever waits is cancelled meanwhile. -/
  cancels : Bool

namespace Reply

variable {T : Type} [Seconds T]

/-- When a request is taken up that is made at a time, if it is: at once if somebody is free to. -/
def begins? (r : Reply T) (free : Bool) (now : T) : Option T :=
  if free then some now else r.queues.map (now + ·)

/-- When a request ends or hangs that is made at a time, or what has to queue for ever is over. -/
def endsAt (r : Reply T) (free : Bool) (now : T) : T := ((r.begins? free now).getD now) + r.takes

/-- A request ends by itself that is taken up and does not hang. -/
def finishes (r : Reply T) (free : Bool) : Bool := (free || r.queues.isSome) && !r.hangs

/-- The request has been taken up by some time. -/
def isSentBy (r : Reply T) (free : Bool) (now time : T) : Bool :=
  free || (r.begins? free now).any fun begins => !decide (time < begins)

/-- The wait ends with what happens to the request: its end, or the cancellation of whoever waits for one that does
not end. -/
def settled (r : Reply T) (free : Bool) (now : T) : Course T where
  waited := if r.finishes free then .ended else if free || r.queues.isSome then .givenUp else .takenBack
  isSent := free || r.queues.isSome
  time := Seconds.later (now + r.lag) (r.endsAt free now)
  cancels := r.cancels || !r.finishes free

/-- The wait ends at a time with neither. -/
def abandoned (r : Reply T) (free : Bool) (now time : T) : Course T where
  waited := if r.isSentBy free now time then .givenUp else .takenBack
  isSent := r.isSentBy free now time
  time := time
  cancels := false

/-- How the wait goes for a request that is made at a time, by somebody whose lifetime may have a deadline. -/
def course (r : Reply T) (free : Bool) (now : T) (deadline : Option T) : Course T :=
  let waits := now + r.lag
  let settles := r.finishes free || r.cancels
  match deadline with
  -- without a deadline, only a cancellation can end the wait for what does not end by itself
  | none => r.settled free now
  | some deadline =>
    if settles && !decide (waits < r.endsAt free now) then r.settled free now
    else if Seconds.longestWait < Seconds.left waits deadline then
      ⟨.refused, r.isSentBy free now waits, waits, false⟩
    else if settles && !decide (deadline < r.endsAt free now) then r.settled free now
    else r.abandoned free now (Seconds.later waits deadline)

end Reply

end InstallWatch.Service
