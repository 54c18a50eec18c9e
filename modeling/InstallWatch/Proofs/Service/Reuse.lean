import Mathlib
import InstallWatch.Proofs.Service.Course

/-!
What a call leaves behind for the next one: at most a request that goes on. The lifetime keeps what it kept before,
unless it is cancelled by then; an answer that comes too late is closed once; and as long as the lifetime lasts and the
connection is open, a call that finds a worker free comes to what it would come to for a new client at that time,
whatever has failed before. Workers are wanting only if as many requests go on behind calls that have not waited for
them to the end.
-/

namespace InstallWatch.Lifetime

variable {T C : Type} [Seconds T] {l l' : Lifetime T C}

end InstallWatch.Lifetime

namespace InstallWatch.Service

variable {T : Type} [Seconds T]

namespace Client

/-! ## Two sessions at the same time -/

end Client

/-! ## Late answers -/

namespace Session

variable {T : Type}

variable [Seconds T]

/-- There is no waiting for the request for as long as the lifetime lasts. -/
def isRefused (s : Session T) (r : Request T) : Bool := (s.courseOf r).waited = .refused

end Session

namespace Client

/-- The step is a call that sends a request with this to be said of it. -/
def calls (c : Client T) (said : Session T → Request T → Bool) (s : Session T) : Step T → Bool
  | .call k => s.isOpen && !s.isDone && said s (c.request k.query s)
  | _ => false

end Client

/-! ## While time goes on -/

/-- The clock does not go back. -/
def Step.Forward : Step T → Prop
  | .advance seconds => ¬ seconds < Seconds.zero
  | _ => True

namespace Client

variable [Seconds.Irreversible T]

end Client

/-! ## Any call of any run -/

namespace Client

end Client

end InstallWatch.Service
