import InstallWatch.Manifest.AgentConfig
import InstallWatch.Manifest.Host
import InstallWatch.Manifest.InstallConfig

/-!
The three kinds of files that describe an installation, and what each of them holds.
-/

namespace InstallWatch

inductive Asset where
  | agentConfig
  | hosts
  | installConfig
deriving DecidableEq, Repr

namespace Asset

/-- All assets, in the order in which they are loaded. -/
def all : List Asset := [agentConfig, hosts, installConfig]

/-- The name by which messages speak of the asset. -/
def label : Asset → String
  | agentConfig => "Agent Config"
  | hosts => "Agent Manifests"
  | installConfig => "Install Config"

/-- The asset's file, inside the folder of the installation. -/
def fileName : Asset → String
  | agentConfig => "agent-config.yaml"
  | hosts => "cluster-manifests/nmstateconfig.yaml"
  | installConfig => "install-config.yaml"

/-- What the asset holds. -/
abbrev Content : Asset → Type
  | agentConfig => AgentConfig
  | hosts => HostList
  | installConfig => InstallConfig

end InstallWatch.Asset
