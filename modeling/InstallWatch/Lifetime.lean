import InstallWatch.Seconds

/-!
How long something may take: until it is cancelled, and until its deadline if it has one. What is to be done
at the cancellation waits in the lifetime, in the order of registration. A lifetime knows no clock; whoever
asks it for the time left says what time it is.
-/

namespace InstallWatch

structure Lifetime (T C : Type) where
  deadline : Option T
  isCancelled : Bool
  /-- What is to be done at the cancellation. -/
  pending : List C

namespace Lifetime

/-- Why a lifetime is over. -/
inductive Ending where
  | cancelled
  | expired
deriving DecidableEq, Repr

def Ending.message : Ending → String
  | cancelled => "context cancelled"
  | expired => "context deadline exceeded"

variable {T C : Type}

/-- A lifetime without a deadline. -/
def unbounded : Lifetime T C := ⟨none, false, []⟩

def endingAt (deadline : T) : Lifetime T C := ⟨some deadline, false, []⟩

section
variable [Seconds T]

/-- A lifetime that ends a time after now. -/
def lasting (now seconds : T) : Lifetime T C := endingAt (now + seconds)

/-- The time left until the deadline. -/
def remaining (l : Lifetime T C) (now : T) : Option T := l.deadline.map (Seconds.left now)

/-- The deadline has been reached. -/
def isExpired (l : Lifetime T C) (now : T) : Bool :=
  match l.remaining now with
  | some r => !decide (Seconds.zero < r)
  | none => false

def isDone (l : Lifetime T C) (now : T) : Bool := l.isCancelled || l.isExpired now

/-- Why the lifetime is over, if it is. -/
def ending? (l : Lifetime T C) (now : T) : Option Ending :=
  if l.isCancelled then some .cancelled
  else if l.isExpired now then some .expired
  else none

/-- A timeout that does not outlast the deadline. -/
def bound (l : Lifetime T C) (now timeout : T) : T :=
  match l.remaining now with
  | some r => Seconds.shorter timeout r
  | none => timeout

theorem isSome_ending? (l : Lifetime T C) (now : T) : (l.ending? now).isSome = l.isDone now := by
  unfold ending? isDone
  cases l.isCancelled <;> cases l.isExpired now <;> rfl

end

/-- Keeps something for the cancellation. After the cancellation nothing is kept. -/
def register (l : Lifetime T C) (c : C) : Option (Lifetime T C) :=
  if l.isCancelled then none else some { l with pending := l.pending ++ [c] }

/-- Takes back what was registered, the first that is equal to it. -/
def unregister [DecidableEq C] (l : Lifetime T C) (c : C) : Lifetime T C :=
  { l with pending := l.pending.erase c }

/-- Cancels the lifetime and hands out what is to be done. Only the first cancellation finds something. -/
def cancel (l : Lifetime T C) : Lifetime T C × List C :=
  if l.isCancelled then (l, []) else ({ l with isCancelled := true, pending := [] }, l.pending)

theorem isCancelled_cancel (l : Lifetime T C) : l.cancel.1.isCancelled = true := by
  unfold cancel
  split <;> simp_all

theorem cancel_of_cancelled {l : Lifetime T C} (h : l.isCancelled = true) : l.cancel = (l, []) := by
  simp [cancel, h]

theorem register_eq_none_iff (l : Lifetime T C) (c : C) :
    l.register c = none ↔ l.isCancelled = true := by
  simp [register]

theorem pending_cancel (l : Lifetime T C) (h : l.isCancelled = false) :
    l.cancel.1.pending = [] ∧ l.cancel.2 = l.pending := by
  simp [cancel, h]

end InstallWatch.Lifetime
