import InstallWatch.Manifest.Metadata

/-!
The install configuration. It matters here for the key that opens the hosts.
-/

namespace InstallWatch

structure InstallConfig where
  apiVersion : String
  metadata : Metadata
  baseDomain : Option String
  sshKey : String
deriving DecidableEq

namespace InstallConfig
open InstallWatch.Schema

def title : String := "InstallConfig"

def check : Data → Checked InstallConfig :=
  record title fun es =>
    InstallConfig.mk <$> field es ["apiVersion", "api_version"] "v1" text
      <*> field es ["metadata"] .empty Metadata.check
      <*> field es ["baseDomain", "base_domain"] none (optional text)
      <*> field es ["sshKey", "ssh_key"] "" text

def write (c : InstallConfig) : Data :=
  written [("api_version", .text c.apiVersion), ("metadata", c.metadata.write),
    ("base_domain", writtenOption .text c.baseDomain), ("ssh_key", .text c.sshKey)] []

/-- The keys to log in with: one, unless it is empty. -/
def sshKeys (c : InstallConfig) : List String := if c.sshKey = "" then [] else [c.sshKey]

end InstallWatch.InstallConfig
