import InstallWatch.Asset.Bundle
import InstallWatch.RendezvousHost
import InstallWatch.Service.Client
import InstallWatch.Service.Overrides

/-!
From the folder of an installation to a client for its rendezvous host. Nothing is sent, and a session is taken
up only when everything else has succeeded.
-/

namespace InstallWatch.Service

inductive ConnectionFault where
  | noFolder (folder : Files.Path)
  /-- It cannot be told whether the folder is there. -/
  | unreachable (f : Files.Fault)
  | assets (f : Asset.BundleFault)
  | host (f : RendezvousHost.Fault)
  /-- There is no location for the text that the host's address is given as. -/
  | unlocated (address : String)

namespace ConnectionFault

variable [Asset.Library]

def message : ConnectionFault → String
  | noFolder folder => Asset.Store.refusal folder
  | unreachable f => f.message
  | assets (.failed _) => Asset.BundleFault.message
  | assets (.unexpected f) => f.message
  | host f => f.message
  | unlocated address => "failed to build REST endpoint for " ++ address

/-- What lies behind a fault. -/
def reason? : ConnectionFault → Option String
  | noFolder _ | unreachable _ | assets (.unexpected _) => none
  | assets (.failed f) => some f.message
  | host f => f.reason?
  | unlocated address => some (Location.refusal address)

end ConnectionFault

/-- What a folder says about the service: the address of the rendezvous host, and the keys to log in with. -/
structure Destination where
  address : Address
  sshKeys : List String

namespace Destination

def ofBundle (b : Asset.Bundle) : List Journal.Entry × Except ConnectionFault Destination :=
  match RendezvousHost.find b.agentConfig b.hosts with
  | .error f => ([], .error (.host f))
  | .ok a => ([RendezvousHost.found a], .ok ⟨a, (b.installConfig.map (·.sshKeys)).getD []⟩)

def ofFolder [Asset.Library] (t : Files.Tree) (env : Environment) (folder : Files.Path) :
    List Journal.Entry × Except ConnectionFault Destination :=
  match Asset.Store.openAt t folder with
  | .error f => ([], .error (.unreachable f))
  | .ok none => ([], .error (.noFolder folder))
  | .ok (some store) =>
    match Asset.Bundle.load t env store with
    | (_, entries, .error f) => (entries, .error (.assets f))
    | (_, entries, .ok b) =>
      let (more, d) := ofBundle b
      (entries ++ more, d)

end Destination

namespace Client

variable {T : Type} [Seconds T]

/-- A client for an address that is written as given. -/
def make (location : Location) (s : Settings) (address : String) (sshKeys : List String) : Client T :=
  ⟨location, Seconds.ofFloat s.timeout, address, sshKeys⟩

/-- A client for the rendezvous host of a folder, in a session. Where the service listens is read off the text of
the host's address. -/
def connect [Asset.Library] (t : Files.Tree) (env : Environment) (folder : Files.Path) (settings : Settings) (s : Session T) :
    Session T × Except ConnectionFault (Client T) :=
  let (entries, d) := Destination.ofFolder t env folder
  let s := s.log entries
  match d with
  | .error f => (s, .error f)
  | .ok d => match Location.ofText? d.address.text settings with
    | none => (s, .error (.unlocated d.address.text))
    | some location => (attach s, .ok (make location settings d.address.text d.sshKeys))

end InstallWatch.Service.Client
