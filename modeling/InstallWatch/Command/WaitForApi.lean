import InstallWatch.Attempts
import InstallWatch.Command.Outcome
import InstallWatch.Service.Client

/-!
The command that waits until the service answers. The lifetime of the session ends the polls; their number is
only chosen so large that it cannot end them before.
-/

namespace InstallWatch.Command
open InstallWatch.Service

/-- Why a poll does not end the wait with success. -/
inductive Trouble where
  | notLive (url : String)
  | ended (e : Lifetime.Ending)
  | call (f : Fault)
  /-- Nobody can sleep for so long. -/
  | endlessPause

namespace Trouble

def message : Trouble → String
  | notLive url => "REST API at " ++ url ++ " is not live yet"
  | ended e => e.message
  | call f => f.message
  | endlessPause => "timestamp out of range for platform time_t"

def isNotLive : Trouble → Bool
  | notLive _ => true
  | _ => false

end Trouble

variable {T : Type} [Seconds T]

/-- The number of polls after the first one: how often the interval goes into the timeout. -/
def morePolls (T : Type) [Seconds T] (timeout interval : Nat) : Nat := Seconds.times T interval timeout

def poll (c : Client T) (s : Session T) : Session T × Except Trouble Unit :=
  match c.isLive s with
  | (s, .ok true) => (s, .ok ())
  | (s, .ok false) => match s.ending? with
    | some e => (s, .error (.ended e))
    | none => (s, .error (.notLive c.location.url))
  | (s, .error f) => (s, .error (.call f))

/-- The time to sleep: the interval, but not past the end of the lifetime. -/
def pauseOf (interval : Nat) (s : Session T) : T :=
  match Seconds.ofNat? interval with
  | some i => s.lifetime.bound s.now i
  | none => (s.lifetime.remaining s.now).getD Seconds.zero

/-- Sleeps, unless it is for longer than a clock goes, or past its last reading. -/
def rest (interval : Nat) (s : Session T) : Session T × Option Trouble :=
  let pause := pauseOf interval s
  if Seconds.clockEnd < pause ∨ Seconds.clockEnd < s.now + pause then (s, some .endlessPause)
  else (s.sleep pause, none)

def polls (timeout interval : Nat) (c : Client T) : Attempts (Session T) Trouble Unit where
  more := morePolls T timeout interval
  action := poll c
  isRetryable := Trouble.isNotLive
  observe := fun k e s => (s.log [Journal.debug ("attempt " ++ toString k ++ ": " ++ e.message)], none)
  pause := rest interval

/-- What the journal says when the wait was in vain. -/
def inVain (timeout : Nat) (c : Client T) : List Journal.Entry :=
  Journal.error ("REST API at " ++ c.location.url ++ " did not come up within " ++ toString timeout ++ "s") ::
    (if c.sshKeys.isEmpty then []
     else [Journal.info ("check that node zero is reachable: ssh core@" ++ c.address ++
       " with the install-config sshKey")])

def awaitApi (timeout interval : Nat) (c : Client T) (s : Session T) : Session T × Outcome :=
  let s := s.log [Journal.info
    ("Waiting up to " ++ toString timeout ++ "s for the REST API at " ++ c.location.url)]
  match (polls timeout interval c).run s with
  | (s, .done ()) =>
    ((Client.close s).log [Journal.info ("REST API at " ++ c.location.url ++ " is live")], ⟨[], .done⟩)
  | (s, .failed (.call f)) => (Client.close s, .crashed (.call f))
  | (s, .failed .endlessPause) => (Client.close s, .crashed .endlessPause)
  | (s, .failed _) | (s, .exhausted _) => (Client.close (s.log (inVain timeout c)), .failed)

end InstallWatch.Command
