import InstallWatch.Manifest.Metadata

/-!
The agent configuration. Of all it can say, only the address pinned for the rendezvous host matters here.
-/

namespace InstallWatch

structure AgentConfig where
  apiVersion : String
  kind : String
  metadata : Metadata
  /-- The pinned address, as it was written. -/
  rendezvousIp : Option String
deriving DecidableEq

namespace AgentConfig
open InstallWatch.Schema

/-- The configuration that says nothing. -/
def empty : AgentConfig := ⟨"v1alpha1", "AgentConfig", .empty, none⟩

def title : String := "AgentConfig"

def check : Data → Checked AgentConfig :=
  record title fun es =>
    AgentConfig.mk <$> field es ["apiVersion", "api_version"] empty.apiVersion text
      <*> field es ["kind"] empty.kind text
      <*> field es ["metadata"] empty.metadata Metadata.check
      <*> field es ["rendezvousIP", "rendezvous_ip"] empty.rendezvousIp (optional text)

def write (c : AgentConfig) : Data :=
  written [("api_version", .text c.apiVersion), ("kind", .text c.kind), ("metadata", c.metadata.write),
    ("rendezvous_ip", writtenOption .text c.rendezvousIp)] []

/-- The pinned address, if there is a text that could be one. -/
def pin? (c : AgentConfig) : Option String :=
  c.rendezvousIp.filter (· ≠ "")

end InstallWatch.AgentConfig
