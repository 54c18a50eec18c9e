import InstallWatch.Service.Fault
import InstallWatch.Service.Location
import InstallWatch.Service.Session

/-!
The calls to the service. Every call first looks whether its lifetime is over, sends one request that does not
outlast it, and looks again: a lifetime that has ended in the meantime is what the call reports, whatever the
service did.
-/

namespace InstallWatch.Service

structure Client (T : Type) where
  location : Location
  /-- Seconds one request may take. -/
  timeout : T
  /-- The address of the rendezvous host. -/
  address : String
  /-- The keys to log in with there. -/
  sshKeys : List String

/-- What can be asked for. -/
inductive Query where
  | infraEnvs
  | clusters
  | events (infraEnv : String)
deriving DecidableEq, Repr

namespace Query

def resource : Query → String
  | infraEnvs => "infra-envs"
  | clusters => "clusters"
  | events _ => "events"

def fields : Query → List (String × String)
  | events infraEnv => [("infra_env_id", infraEnv)]
  | _ => []

end Query

namespace Client

variable {T : Type} [Seconds T]

def accept : String := "application/json"

def baseUrl (c : Client T) : String := Service.baseUrl c.location.url

def urlOf (c : Client T) (q : Query) : String := resourceUrl c.baseUrl q.resource

/-- The request for a query, made at a time in a lifetime. -/
def request (c : Client T) (q : Query) (s : Session T) : Request T :=
  ⟨c.urlOf q, q.fields, s.lifetime.bound s.now c.timeout, accept⟩

/-- The items that an answer lists. Null lists nothing. -/
def itemsOf (c : Client T) (q : Query) (a : Answer) : Except Fault (List Json) :=
  if (Fault.blame? a.status).isSome then
    .error (.refused a.status a.reason (Url.sent (c.urlOf q) q.fields))
  else match a.read with
    | .error f => .error (.notJson f)
    | .ok .null => .ok []
    | .ok (.list items) => .ok items
    | .ok v => .error (.notList q.resource v.kindName)

/-- Why a request came to nothing that the wait ended without. -/
def abandonment (q : Query) (s : Session T) : Fault :=
  match s.ending? with
  | some e => .ended e
  | none => .aborted q.resource none

/-- What became of a request that ended. -/
def conclude (c : Client T) (q : Query) (s : Session T) :
    Except Outage Answer → Except Fault (List Json)
  | .error o => .error (if s.isDone then .aborted q.resource (some o) else .outage o)
  | .ok a => match s.ending? with
    | some e => .error (.ended e)
    | none => c.itemsOf q a

/-- What a query comes to by how the wait for its request has ended. A request in the queue is lost with the
connection. -/
def resultOf (c : Client T) (q : Query) (s : Session T) (outcome : Except Outage Answer) :
    Waited → Except Fault (List Json)
  | .ended => c.conclude q s outcome
  | .givenUp => .error (abandonment q s)
  | .takenBack => .error (if s.isOpen then abandonment q s else .dropped)
  | .refused => .error .tooFar

/-- Asks for a list. -/
def list (c : Client T) (q : Query) (s : Session T) : Session T × Except Fault (List Json) :=
  match s.ending? with
  | some e => (s, .error (.ended e))
  | none =>
    if s.isOpen then
      let (s, outcome, course) := s.exchange (c.request q s)
      (s, c.resultOf q s outcome course.waited)
    else (s, .error .closed)

/-- Whether the service lists its infra-envs. Whatever else happens reads as not yet. -/
def isLive (c : Client T) (s : Session T) : Session T × Except Fault Bool :=
  match c.list .infraEnvs s with
  | (s, .ok _) => (s, .ok true)
  | (s, .error f) =>
    if f.isExpected then
      (s.log [Journal.debug ("rest API at " ++ c.location.url ++ " not live: " ++ f.message)], .ok false)
    else (s, .error f)

/-- The identity in a listing; the journal notes one that is not known, under a noun. -/
def identity (c : Client T) (q : Query) (noun : String) (s : Session T) :
    Session T × Except Fault Identity :=
  match c.list q s with
  | (s, .error f) => (s, .error f)
  | (s, .ok items) =>
    match Identity.ofListing items with
    | .error b => (s, .error (.badItem b))
    | .ok i => (s.log (i.report noun), .ok i)

def cluster (c : Client T) (s : Session T) : Session T × Except Fault Identity :=
  c.identity .clusters "clusters" s

def infraEnv (c : Client T) (s : Session T) : Session T × Except Fault Identity :=
  c.identity .infraEnvs "infraenvs" s

/-- The events of an infra-env. -/
def events (c : Client T) (infraEnv : String) (s : Session T) : Session T × Except Fault (List Json) :=
  c.list (.events infraEnv) s

/-- Takes up a session: when its lifetime is cancelled, the connection is closed. -/
def attach (s : Session T) : Session T := s.register .close

/-- Closes the connection; the lifetime need not do it any more. -/
def close (s : Session T) : Session T := (s.unregister .close).shut

end InstallWatch.Service.Client
