/-!
Trying an action again until it succeeds, for a number of attempts. Some failures mean that it is worth trying
again; every other one ends the attempts. After each failed attempt an observer is told, and before the next
there is a pause. Both may fail by themselves, which ends the attempts as well.
-/

namespace InstallWatch

/-- How to make attempts: `σ` is what they change, `ε` are the failures, `α` are the results. -/
structure Attempts (σ ε α : Type) where
  /-- How many attempts may follow the first one. -/
  more : Nat
  action : σ → σ × Except ε α
  isRetryable : ε → Bool
  /-- Tells of a failed attempt, its number first; this may fail by itself. -/
  observe : Nat → ε → σ → σ × Option ε
  /-- Lets the time between two attempts pass; this may fail by itself, too. -/
  pause : σ → σ × Option ε

namespace Attempts

variable {σ ε α : Type}

/-- How attempts end. -/
inductive Ending (ε α : Type) where
  | done (result : α)
  /-- A failure that is not worth another attempt, or one of the observer. -/
  | failed (failure : ε)
  | exhausted (last : ε)

/-- The number of attempts there may be, if it is one. -/
def limit? (n : Int) : Option Nat := if n < 1 then none else some n.toNat

/-- What to say of a number of attempts that is none. -/
def limitRefusal : String := "retries must be >= 1"

/-- What to say when all attempts of an action have failed. -/
def exhaustedText (name : String) (attempts : Nat) : String :=
  name ++ " failed after " ++ toString attempts ++ " attempts"

/-- Makes the attempt of a number and at most `left` more. -/
def runFrom (p : Attempts σ ε α) : Nat → Nat → σ → σ × Ending ε α
  | left, number, s =>
    match p.action s with
    | (s, .ok a) => (s, .done a)
    | (s, .error e) =>
      if p.isRetryable e then
        match p.observe number e s with
        | (s, some failure) => (s, .failed failure)
        | (s, none) =>
          match left with
          | 0 => (s, .exhausted e)
          | left + 1 =>
            match p.pause s with
            | (s, some failure) => (s, .failed failure)
            | (s, none) => runFrom p left (number + 1) s
      else (s, .failed e)

/-- A success ends the attempts. -/
theorem runFrom_of_ok (p : Attempts σ ε α) (left number : Nat) {s s' : σ} {a : α}
    (h : p.action s = (s', .ok a)) : p.runFrom left number s = (s', .done a) := by
  cases left <;> simp [runFrom, h]

/-- A failure that is not worth another attempt ends them as well. -/
theorem runFrom_of_error (p : Attempts σ ε α) (left number : Nat) {s s' : σ} {e : ε}
    (h : p.action s = (s', .error e)) (hr : p.isRetryable e = false) :
    p.runFrom left number s = (s', .failed e) := by
  cases left <;> simp [runFrom, h, hr]

/-- So does one of the observer. -/
theorem runFrom_of_raised (p : Attempts σ ε α) (left number : Nat) {s s' s'' : σ} {e f : ε}
    (h : p.action s = (s', .error e)) (hr : p.isRetryable e = true) (ho : p.observe number e s' = (s'', some f)) :
    p.runFrom left number s = (s'', .failed f) := by
  cases left <;> simp [runFrom, h, hr, ho]

theorem runFrom_last (p : Attempts σ ε α) (number : Nat) {s s' s'' : σ} {e : ε}
    (h : p.action s = (s', .error e)) (hr : p.isRetryable e = true) (ho : p.observe number e s' = (s'', none)) :
    p.runFrom 0 number s = (s'', .exhausted e) := by
  simp [runFrom, h, hr, ho]

/-- And so does one of the pause. -/
theorem runFrom_of_unrested (p : Attempts σ ε α) (left number : Nat) {s s' s'' s₃ : σ} {e f : ε}
    (h : p.action s = (s', .error e)) (hr : p.isRetryable e = true) (ho : p.observe number e s' = (s'', none))
    (hp : p.pause s'' = (s₃, some f)) : p.runFrom (left + 1) number s = (s₃, .failed f) := by
  simp [runFrom, h, hr, ho, hp]

theorem runFrom_next (p : Attempts σ ε α) (left number : Nat) {s s' s'' s₃ : σ} {e : ε}
    (h : p.action s = (s', .error e)) (hr : p.isRetryable e = true) (ho : p.observe number e s' = (s'', none))
    (hp : p.pause s'' = (s₃, none)) :
    p.runFrom (left + 1) number s = p.runFrom left (number + 1) s₃ := by
  rw [runFrom]
  simp only [h, hr, ho, hp, ↓reduceIte]

def run (p : Attempts σ ε α) (s : σ) : σ × Ending ε α := p.runFrom p.more 1 s

end InstallWatch.Attempts
