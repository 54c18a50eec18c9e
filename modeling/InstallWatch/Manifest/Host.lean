import InstallWatch.Manifest.Metadata
import InstallWatch.Manifest.Network
import InstallWatch.Text.Lower

/-!
Host declarations: the static network of one host, and the label that marks it as the rendezvous host.
-/

namespace InstallWatch
open InstallWatch.Schema

structure HostSpec where
  config : NetworkState

namespace HostSpec

def empty : HostSpec := ⟨.empty⟩

def title : String := "NMStateConfigSpec"

def check : Data → Checked HostSpec :=
  record title fun es => HostSpec.mk <$> field es ["config"] .empty NetworkState.check

def write (s : HostSpec) : Data := written [("config", s.config.write)] []

end HostSpec

structure Host where
  apiVersion : String
  kind : String
  metadata : Metadata
  spec : HostSpec

namespace Host

def title : String := "NMStateConfig"

def check : Data → Checked Host :=
  record title fun es =>
    Host.mk <$> field es ["apiVersion", "api_version"] "agent-install.openshift.io/v1beta1" text
      <*> field es ["kind"] "NMStateConfig" text
      <*> field es ["metadata"] .empty Metadata.check
      <*> field es ["spec"] .empty HostSpec.check

def write (h : Host) : Data :=
  written [("api_version", .text h.apiVersion), ("kind", .text h.kind), ("metadata", h.metadata.write),
    ("spec", h.spec.write)] []

def name (h : Host) : String := h.metadata.name

/-- The name by which messages speak of the host. -/
def shownName (h : Host) : String := if h.name = "" then "<unnamed>" else h.name

def rendezvousLabel : String := "agent-install.openshift.io/rendezvous"

/-- The label says so, in either case. -/
def isMarked (h : Host) : Bool :=
  (h.metadata.labels.lookup rendezvousLabel).any fun v => Text.lowered v = "true"

def addresses (h : Host) : List String := h.spec.config.addresses

def firstAddress? (h : Host) : Option String := h.addresses.head?

end Host

/-- The declarations of all hosts. -/
structure HostList where
  hosts : List Host

namespace HostList

def title : String := "AgentManifests"

def check : Data → Checked HostList :=
  record title fun es => HostList.mk <$> field es ["nmstate_configs"] [] (list Host.check)

def write (m : HostList) : Data := written [("nmstate_configs", .list (m.hosts.map Host.write))] []

end InstallWatch.HostList
