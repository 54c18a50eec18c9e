import InstallWatch.Json.Reader
import InstallWatch.Seconds
import InstallWatch.Service.Url

/-!
What the service answers. Each resource has its replies, given one after another, and the last one from then
on; a resource without any lists nothing.
-/

namespace InstallWatch.Service

/-- How a request can fail on its way, before there is an answer. -/
inductive Outage.Kind where
  | any
  | connection
  | timeout
  | readTimeout
  | connectTimeout
  | http
  /-- The URL has no host or port to send to. -/
  | invalidUrl
  /-- The URL's host is no address. -/
  | badValue
  /-- A field of the query cannot be written. -/
  | unencodable
deriving DecidableEq, Repr

structure Outage where
  kind : Outage.Kind
  message : String
deriving DecidableEq, Repr

/-- The outage that a URL is which cannot be sent. -/
def Outage.ofUrl (f : Url.Fault) : Outage :=
  ⟨match f with
    | .notAddress _ => .badValue
    | .unencodable _ => .unencodable
    | _ => .invalidUrl, f.message⟩

/-- The body of an answer: as the value that it spells, and that there is room for, or as it comes. -/
inductive Body where
  | json (v : Json)
  | bytes (b : Text.Bytes)

structure Answer where
  status : Int
  reason : String
  body : Body
  /-- How many lists and objects inside each other whoever reads the body has room for. -/
  room : Nat

/-- The value in the body. -/
def Answer.read (a : Answer) : Except Json.Fault Json :=
  match a.body with
  | .json v => .ok v
  | .bytes b => Json.ofBytes a.room b

/-- What happens to a request. -/
structure Reply (T : Type) where
  /-- How long it takes from when it is taken up. -/
  takes : T
  /-- Whoever waits is cancelled by then. -/
  cancels : Bool
  /-- It ends only after whoever waits has given up. -/
  hangs : Bool
  outcome : Except Outage Answer
  /-- How long it is until whoever has made it begins to wait. -/
  lag : T
  /-- How long it is until it is taken up, if it has to queue and is taken up at all. -/
  queues : Option T

namespace Reply

variable {T : Type}

/-- What happens to a request that is over, or hangs, by the time anybody begins to wait. -/
def prompt (takes : T) (cancels hangs : Bool) (outcome : Except Outage Answer) : Reply T :=
  ⟨takes, cancels, hangs, outcome, takes, none⟩

variable [Seconds T]

/-- An outcome at once. -/
def atOnce (outcome : Except Outage Answer) : Reply T := prompt Seconds.zero false false outcome

/-- An answer at once with a value. -/
def value (v : Json) : Reply T := atOnce (.ok ⟨200, "", .json v, 0⟩)

/-- An empty listing. -/
def nothing : Reply T := value (.list [])

def failed (o : Outage) : Reply T := atOnce (.error o)

end Reply

/-- The replies to come, by resource. -/
structure Server (T : Type) where
  replies : List (String × List (Reply T))

namespace Server

variable {T : Type}

def get (s : Server T) (resource : String) : List (Reply T) := (s.replies.lookup resource).getD []

def set (s : Server T) (resource : String) (rs : List (Reply T)) : Server T :=
  ⟨(resource, rs) :: s.replies.filter (·.1 ≠ resource)⟩

/-- The next reply for a resource. -/
def next [Seconds T] (s : Server T) (resource : String) : Reply T × Server T :=
  match s.get resource with
  | [] => (.nothing, s)
  | [r] => (r, s)
  | r :: rs => (r, s.set resource rs)

/-- The reply to a request for a URL. What cannot be sent gets none from the service. -/
def answer [Seconds T] (s : Server T) (url : String) (fields : List (String × String)) :
    Reply T × Server T :=
  match Url.target url fields with
  | .ok t => s.next t.resource
  | .error f => (.failed (.ofUrl f), s)

end InstallWatch.Service.Server
