import InstallWatch.Journal.Entry
import InstallWatch.Lifetime
import InstallWatch.Service.Waiting

/-!
The state that calls to the service share: the clock, the lifetime they live in, the connection, and what has
been sent and noted so far. A closed connection sends nothing any more. An open one has workers for the requests, which
stay with a request until it ends, whether anybody still waits for it or not; as long as all are busy, further requests
have to queue.
-/

namespace InstallWatch.Service

/-- What a lifetime does for the service when it is cancelled. -/
inductive Hook where
  /-- Wakes whoever waits for the request of that number. -/
  | wake (request : Nat)
  /-- Closes the connection. -/
  | close
  /-- What others have registered, and the service has nothing to do with. -/
  | other (owner : Nat)
deriving DecidableEq, Repr

structure Request (T : Type) where
  url : String
  /-- The fields of the query. -/
  fields : List (String × String)
  timeout : T
  accept : String
deriving DecidableEq

structure Session (T : Type) where
  now : T
  lifetime : Lifetime T Hook
  server : Server T
  isOpen : Bool
  /-- How often the connection was closed. -/
  closes : Nat
  /-- How many answers came and were closed after the wait for them had ended. -/
  lateCloses : Nat
  /-- The requests that workers are still at and nobody waits for: of each, whether its answer is to be closed. -/
  strays : List Bool
  /-- The requests that are still to be taken up and nobody waits for. -/
  queue : List (Request T)
  requests : List (Request T)
  sleeps : List T
  entries : List Journal.Entry

namespace Session

variable {T : Type}

def start (now : T) (l : Lifetime T Hook) (server : Server T) : Session T :=
  ⟨now, l, server, true, 0, 0, [], [], [], [], []⟩

def log (s : Session T) (es : List Journal.Entry) : Session T := { s with entries := s.entries ++ es }

/-- Closes the connection. What queues is not taken up any more. -/
def shut (s : Session T) : Session T := { s with isOpen := false, closes := s.closes + 1, queue := [] }

def runHook (s : Session T) : Hook → Session T
  | .wake _ | .other _ => s
  | .close => s.shut

def cancel (s : Session T) : Session T :=
  let (l, due) := s.lifetime.cancel
  due.foldl runHook { s with lifetime := l }

@[simp] theorem lifetime_runHook (s : Session T) (h : Hook) : (s.runHook h).lifetime = s.lifetime := by
  cases h <;> rfl

@[simp] theorem lifetime_foldl_runHook (s : Session T) (hs : List Hook) :
    (hs.foldl runHook s).lifetime = s.lifetime := by
  induction hs generalizing s with
  | nil => rfl
  | cons h hs ih => simp [ih]

theorem lifetime_cancel (s : Session T) : s.cancel.lifetime = s.lifetime.cancel.1 := by
  simp [cancel]

theorem cancel_of_cancelled {s : Session T} (h : s.lifetime.isCancelled = true) : s.cancel = s := by
  simp [cancel, Lifetime.cancel_of_cancelled h]

/-- Registers what is to be done at the cancellation, and does it if the lifetime is cancelled already. -/
def register (s : Session T) (h : Hook) : Session T :=
  match s.lifetime.register h with
  | some l => { s with lifetime := l }
  | none => s.runHook h

def unregister (s : Session T) (h : Hook) : Session T :=
  { s with lifetime := s.lifetime.unregister h }

/-- How many requests a connection can be at. -/
def workers : Nat := 4

def hasWorker (s : Session T) : Bool := decide (s.strays.length < workers)

/-- A worker gets through with a request that nobody waits for, and takes up the first one in the queue. -/
def finish (s : Session T) (i : Nat) : Session T :=
  match s.strays[i]? with
  | none => s
  | some isOwed =>
    let s := { s with strays := s.strays.eraseIdx i, lateCloses := s.lateCloses + isOwed.toNat }
    match s.queue with
    | [] => s
    | r :: rs => { s with queue := rs, requests := s.requests ++ [r], strays := s.strays ++ [false] }

/-- Workers get through with as many requests, those first that nobody has waited for the longest. -/
def finishes (s : Session T) : Nat → Session T
  | 0 => s
  | n + 1 => (s.finish 0).finishes n

/-- Sends a request, which has to queue behind others if no worker is free. -/
def send (s : Session T) (r : Request T) : Session T :=
  let s := if s.hasWorker then s else s.finishes (s.queue.length + 1)
  { s with requests := s.requests ++ [r] }

/-- What a wait leaves behind: a request that goes on, the answer to which is closed if the wait was given up. Nobody
cares for what comes of a request whose wait was refused. -/
def leave (s : Session T) (r : Request T) (outcome : Except Outage Answer) (c : Course T) : Session T :=
  match c.waited with
  | .ended | .takenBack => s
  | .givenUp => { s with strays := s.strays ++ [outcome.isOk] }
  | .refused => if c.isSent then { s with strays := s.strays ++ [false] } else { s with queue := s.queue ++ [r] }

/-- The time of a wait passes, and whoever waits may be cancelled meanwhile. -/
def pass (s : Session T) (c : Course T) : Session T :=
  let s := { s with now := c.time }
  if c.cancels then s.cancel else s

section
variable [Seconds T]

def advance (s : Session T) (seconds : T) : Session T := { s with now := s.now + seconds }

def sleep (s : Session T) (seconds : T) : Session T :=
  { s.advance seconds with sleeps := s.sleeps ++ [seconds] }

def ending? (s : Session T) : Option Lifetime.Ending := s.lifetime.ending? s.now

def isDone (s : Session T) : Bool := s.lifetime.isDone s.now

/-- Sends a request and waits until it ends or the lifetime does. Whoever waits wants to be woken at the cancellation,
which may have come before. -/
def exchange (s : Session T) (r : Request T) : Session T × Except Outage Answer × Course T :=
  let (reply, server) := s.server.answer r.url r.fields
  let course := reply.course s.hasWorker s.now s.lifetime.deadline
  let begins := s.now + reply.lag
  let wake := Hook.wake s.requests.length
  let s := { s with server := server }
  let s := if course.isSent then s.send r else s
  let s := if begins < course.time then (s.register wake).pass course else (s.pass course).register wake
  ((s.unregister wake).leave r reply.outcome course, reply.outcome, course)

end

end InstallWatch.Service.Session
