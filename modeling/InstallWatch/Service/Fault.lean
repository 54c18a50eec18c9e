import InstallWatch.Service.Identity
import InstallWatch.Service.Server
import InstallWatch.Lifetime

/-!
Why a call to the service has no result.
-/

namespace InstallWatch.Service

inductive Fault where
  /-- The lifetime is over. -/
  | ended (e : Lifetime.Ending)
  /-- The lifetime ended during the request, which itself may have failed. -/
  | aborted (resource : String) (reason : Option Outage)
  /-- The connection has been closed. -/
  | closed
  /-- The connection was closed while the request had to queue. -/
  | dropped
  /-- Nobody can wait for as long as the lifetime lasts. -/
  | tooFar
  | outage (o : Outage)
  /-- The service reports an error. -/
  | refused (status : Int) (reason url : String)
  | notJson (f : Json.Fault)
  | notList (resource kind : String)
  | badItem (b : BadItem)

namespace Fault

/-- Whose mistake a status reports: from 400 on the client's, from 500 on the server's. -/
def blame? (status : Int) : Option String :=
  if 400 ≤ status ∧ status < 500 then some "Client Error"
  else if 500 ≤ status ∧ status < 600 then some "Server Error"
  else none

def message : Fault → String
  | ended e => e.message
  | aborted resource _ => "GET " ++ resource ++ " aborted: context done"
  | closed => "cannot schedule new futures after shutdown"
  | dropped => ""
  | tooFar => "timestamp out of range for platform time_t"
  | outage o => o.message
  | refused status reason url =>
    toString status ++ " " ++ (blame? status).getD "" ++ ": " ++ reason ++ " for url: " ++ url
  | notJson f => f.message
  | notList resource kind => "GET " ++ resource ++ ": expected a JSON list, got " ++ kind
  | badItem b => b.message

/-- The fault tells that the lifetime is over. -/
def isEnding : Fault → Bool
  | ended _ | aborted _ _ => true
  | _ => false

/-- Whether the fault is one that calls are expected to have. Calls over a closed connection are a mistake of
the caller; and nobody expects to lose the connection in the queue, a lifetime that is too long to be waited for,
or a body too deep to be read. -/
def isExpected : Fault → Bool
  | closed | dropped | tooFar | notJson .tooDeep => false
  | _ => true

end InstallWatch.Service.Fault
