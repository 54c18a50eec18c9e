import InstallWatch.Service.Client

/-!
A client at work: one call after another, and what happens to its session between them. The owner may close the
connection, the lifetime may be cancelled, time passes, a request that nobody waits for any more may end, and the
service may come to answer differently.
-/

namespace InstallWatch.Service

/-- What a client can be told to find out. -/
inductive Call where
  | isLive
  | cluster
  | infraEnv
  /-- The items of a list as they are. -/
  | list (q : Query)
deriving DecidableEq, Repr

namespace Call

/-- What a call asks the service for. -/
def query : Call → Query
  | isLive | infraEnv => .infraEnvs
  | cluster => .clusters
  | list q => q

/-- What there is to find out by a call. -/
def Finding : Call → Type
  | isLive => Bool
  | cluster | infraEnv => Identity
  | list _ => List Json

end Call

/-- What can happen to the session of a client. -/
inductive Step (T : Type) where
  | call (k : Call)
  /-- The owner closes the connection. -/
  | close
  | cancel
  | advance (seconds : T)
  /-- A request ends that nobody waits for any more. -/
  | finish (i : Nat)
  /-- The service answers like this from then on. -/
  | serve (server : Server T)

def Step.isClose {T : Type} : Step T → Bool
  | close => true
  | _ => false

namespace Client

variable {T : Type} [Seconds T]

def call (c : Client T) : (k : Call) → Session T → Session T × Except Fault k.Finding
  | .isLive => c.isLive
  | .cluster => c.cluster
  | .infraEnv => c.infraEnv
  | .list q => c.list q

def step (c : Client T) (s : Session T) : Step T → Session T
  | .call k => (c.call k s).1
  | .close => close s
  | .cancel => s.cancel
  | .advance seconds => s.advance seconds
  | .finish i => s.finish i
  | .serve server => { s with server := server }

def steps (c : Client T) (s : Session T) (ss : List (Step T)) : Session T := ss.foldl c.step s

end InstallWatch.Service.Client
