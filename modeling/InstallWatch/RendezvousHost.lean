import InstallWatch.Address
import InstallWatch.Journal.Entry
import InstallWatch.Manifest.AgentConfig
import InstallWatch.Manifest.Host
import InstallWatch.Text.Order

/-!
Which host of an installation is the rendezvous host. Its address is pinned in the agent configuration, or
belongs to the hosts that are marked, or to the only host; anything else is an error, never a guess.
-/

namespace InstallWatch.RendezvousHost

/-- Where an address was written. -/
inductive Source where
  | agentConfig
  | host (name : String)
deriving DecidableEq

inductive Fault where
  | nothingGiven
  | nothingDeclared
  | badAddress (written : String) (source : Source)
  | noAddress (shownName : String)
  | conflict (pin : Address) (name : String)
  | undeclared (pin : Address)
  | severalMarked (addresses : List String)
  | severalHosts (names : List String)
deriving DecidableEq

namespace Fault

/-- The inputs are missing, as opposed to contradicting each other. -/
def isMissing : Fault → Bool
  | nothingGiven | nothingDeclared => true
  | _ => false

def sourceText : Source → String
  | .agentConfig => "AgentConfig"
  | .host name => "NMStateConfig " ++ name

def message : Fault → String
  | nothingGiven => "both AgentConfig and NMStateConfig are empty"
  | nothingDeclared => "missing rendezvousIP in agent-config or at least one NMStateConfig manifest"
  | badAddress written source =>
    "invalid rendezvousIP " ++ Text.quoted written ++ " in " ++ sourceText source
  | noAddress name => "no IP address found in NMStateConfig " ++ name
  | conflict pin name =>
    "rendezvousIP " ++ pin.text ++ " conflicts with NMStateConfig " ++ name ++
      " marked as rendezvous host"
  | undeclared pin =>
    "rendezvousIP " ++ pin.text ++ " does not match any address declared in NMStateConfig"
  | severalMarked addresses =>
    "multiple NMStateConfigs marked as rendezvous host: " ++ ", ".intercalate addresses
  | severalHosts names =>
    "cannot choose rendezvous host among NMStateConfigs (" ++ ", ".intercalate names ++
      "); set rendezvousIP in agent-config"

/-- What lies behind a fault: a text that is no address. -/
def reason? : Fault → Option String
  | badAddress written _ =>
    some (Text.quoted (Text.trimmed Text.isBlank written) ++ " does not appear to be an IPv4 or IPv6 address")
  | _ => none

end Fault

def readAddress (written : String) (source : Source) : Except Fault Address :=
  match Address.parseTrimmed? written with
  | some a => .ok a
  | none => .error (.badAddress written source)

def hostAddress (h : Host) (written : String) : Except Fault Address :=
  readAddress written (.host h.name)

/-- The address by which a host is known: its first one. -/
def firstAddress (h : Host) : Except Fault Address :=
  match h.firstAddress? with
  | none => .error (.noAddress h.shownName)
  | some written => hostAddress h written

/-- All addresses of all hosts. -/
def pool (hosts : List Host) : Except Fault (List Address) :=
  (hosts.flatMap fun h => h.addresses.map (h, ·)).mapM fun (h, written) => hostAddress h written

/-- Every marked host has to be known by the pinned address. -/
def agree (pin : Address) : List Host → Except Fault Unit
  | [] => .ok ()
  | h :: hs => do
    if (← firstAddress h) ≠ pin then .error (.conflict pin h.name)
    agree pin hs

/-- The pinned address, which must not contradict the hosts. -/
def fromPin (written : String) (hosts : List Host) : Except Fault Address := do
  let pin ← readAddress written .agentConfig
  agree pin (hosts.filter (·.isMarked))
  if hosts.isEmpty then return pin
  if (← pool hosts).contains pin then return pin
  .error (.undeclared pin)

/-- The address that all marked hosts are known by. -/
def fromMarked (marked : List Host) : Except Fault Address := do
  match (← marked.mapM firstAddress).eraseDups with
  | [a] => return a
  | as => .error (.severalMarked (Text.sorted (as.map Address.text)))

/-- Without a pin: the marked hosts, or the only host. -/
def fromHosts (hosts : List Host) : Except Fault Address :=
  match hosts.filter (·.isMarked), hosts with
  | [], [] => .error .nothingDeclared
  | [], [h] => firstAddress h
  | [], hs => .error (.severalHosts (Text.sorted (hs.map (·.shownName))))
  | marked, _ => fromMarked marked

def choose (config : AgentConfig) (hosts : List Host) : Except Fault Address :=
  match config.pin? with
  | some written => fromPin written hosts
  | none => fromHosts hosts

/-- What there is to choose from: a missing configuration says nothing, missing manifests declare no host. -/
def inputs (config : Option AgentConfig) (manifests : Option HostList) :
    Except Fault (AgentConfig × List Host) :=
  match config, manifests with
  | some c, some m => .ok (c, m.hosts)
  | none, some m => .ok (.empty, m.hosts)
  | some c, none => .ok (c, [])
  | none, none => .error .nothingGiven

/-- The address of the rendezvous host. -/
def find (config : Option AgentConfig) (manifests : Option HostList) : Except Fault Address := do
  let (config, hosts) ← inputs config manifests
  choose config hosts

/-- What the journal says of an address that was found. -/
def found (a : Address) : Journal.Entry := Journal.debug ("rendezvous IP resolved to " ++ a.text)

end InstallWatch.RendezvousHost
