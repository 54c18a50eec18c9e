import InstallWatch.Asset.Store

/-!
All assets of an installation at once. Each is tried, whatever became of the ones before; what failed is noted
in the journal, and reported together.
-/

namespace InstallWatch.Asset

structure Bundle where
  agentConfig : Option AgentConfig
  hosts : Option HostList
  installConfig : Option InstallConfig

inductive BundleFault where
  /-- At least one asset failed, this one first. -/
  | failed (first : LoadFault)
  /-- An asset failed in a way that nobody expects, and nothing was tried after it. -/
  | unexpected (fault : LoadFault)

def BundleFault.message : String := "failed to load AgentConfig, NMStateConfig, or InstallConfig"

namespace Bundle
open Store

/-- Where loading stands: the store, the entries so far, and the first asset that failed. -/
structure Progress where
  store : Store
  entries : List Journal.Entry
  first : Option LoadFault

variable [Library]

/-- Tries one asset. -/
def attempt (t : Files.Tree) (env : Environment) (p : Progress) (a : Asset) :
    Progress × Except LoadFault (Option a.Content) :=
  let r := p.store.load t env a
  match r.outcome with
  | .ok content => (⟨r.store, p.entries ++ r.entries, p.first⟩, .ok content)
  | .error f =>
    if f.reason.isExpected then
      let entry := Journal.debug ("failed to load " ++ a.label ++ ": " ++ f.reason.message)
      (⟨r.store, p.entries ++ r.entries ++ [entry], p.first.or (some f)⟩, .ok none)
    else (⟨r.store, p.entries ++ r.entries, p.first⟩, .error f)

/-- Loads every asset of a store. -/
def load (t : Files.Tree) (env : Environment) (s : Store) :
    Store × List Journal.Entry × Except BundleFault Bundle :=
  let (p, agentConfig) := attempt t env ⟨s, [], none⟩ .agentConfig
  match agentConfig with
  | .error f => (p.store, p.entries, .error (.unexpected f))
  | .ok agentConfig =>
    let (p, hosts) := attempt t env p .hosts
    match hosts with
    | .error f => (p.store, p.entries, .error (.unexpected f))
    | .ok hosts =>
      let (p, installConfig) := attempt t env p .installConfig
      match installConfig with
      | .error f => (p.store, p.entries, .error (.unexpected f))
      | .ok installConfig =>
        match p.first with
        | some f => (p.store, p.entries, .error (.failed f))
        | none => (p.store, p.entries, .ok ⟨agentConfig, hosts, installConfig⟩)

end InstallWatch.Asset.Bundle
