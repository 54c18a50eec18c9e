import Mathlib
import InstallWatch.Proofs.Asset.History

/-!
The same files in another folder. They come to the same, but for the folder that a fault names; and an install
configuration that can be loaded changes nothing but itself.
-/

namespace InstallWatch.Asset
open Files

/-- The fault, had its file been in another folder. -/
def LoadFault.told (folder : Path) (f : LoadFault) : LoadFault := { f with path := folder.child f.asset.fileName }

def BundleFault.told (folder : Path) : BundleFault → BundleFault
  | failed f => failed (f.told folder)
  | unexpected f => unexpected (f.told folder)

/-! ## One asset -/

theorem below_fileName (a : Asset) : Path.Below a.fileName := by
  cases a <;> constructor <;> decide

/-- The same file in another folder comes to the same. -/
theorem outcome_load_told [Yaml.Room] {t t' : Tree} {folder folder' : Path} {a : Asset} (env : Environment)
    (same : t'.file? (folder'.child a.fileName) = t.file? (folder.child a.fileName)) :
    ((Store.empty folder').load t' env a).outcome =
      ((Store.empty folder).load t env a).outcome.mapError (LoadFault.told folder') := by
  have new : ∀ folder, (Store.empty folder).cached a = none := fun _ => rfl
  have path : ∀ folder, (Store.empty folder).pathOf a = folder.child a.fileName := fun _ => rfl
  cases found : t.file? (folder.child a.fileName) with
  | error f =>
    rw [load_hidden (new folder') (same.trans found), load_hidden (new folder) found]
    rfl
  | ok there =>
    cases there with
    | none =>
      rw [load_absent (new folder') (same.trans found), load_absent (new folder) found]
      rfl
    | some contents =>
      rw [load_there (new folder') (same.trans found), load_there (new folder) found, path, path,
        (below_fileName a).name_child folder', (below_fileName a).name_child folder]
      cases ofContents (Path.parse a.fileName).name env contents a <;> rfl

/-! ## All assets -/

namespace Bundle
open Store

variable {α : Type}

theorem settle_told (folder : Path) (first : Option LoadFault) (o : Except LoadFault (Option α)) :
    settle (first.map (LoadFault.told folder)) (o.mapError (LoadFault.told folder)) =
      ((settle first o).map fun (first, content) => (first.map (LoadFault.told folder), content)).mapError
        (LoadFault.told folder) := by
  cases o with
  | ok content => rfl
  | error f =>
    have same : (f.told folder).reason = f.reason := rfl
    simp only [settle, Except.mapError, same]
    split
    · cases first <;> rfl
    · rfl

/-- Faults that name another folder count as they would. -/
theorem gather_told (folder : Path) (agentConfig : Except LoadFault (Option AgentConfig))
    (hosts : Except LoadFault (Option HostList)) (installConfig : Except LoadFault (Option InstallConfig)) :
    gather (agentConfig.mapError (LoadFault.told folder)) (hosts.mapError (LoadFault.told folder))
        (installConfig.mapError (LoadFault.told folder)) =
      (gather agentConfig hosts installConfig).mapError (BundleFault.told folder) := by
  have told₁ := settle_told folder none agentConfig
  have told₂ := fun first => settle_told folder first hosts
  have told₃ := fun first => settle_told folder first installConfig
  unfold gather
  rw [Option.map_none] at told₁
  rw [told₁]
  generalize hosts.mapError (LoadFault.told folder) = hosts' at told₂ ⊢
  generalize installConfig.mapError (LoadFault.told folder) = installConfig' at told₃ ⊢
  cases settle none agentConfig with
  | error f => rfl
  | ok settled =>
    obtain ⟨first, agentConfig⟩ := settled
    simp only [Except.map, Except.mapError, told₂]
    cases settle first hosts with
    | error f => rfl
    | ok settled =>
      obtain ⟨first, hosts⟩ := settled
      simp only [told₃, Except.map, Except.mapError]
      cases settle first installConfig with
      | error f => rfl
      | ok settled =>
        obtain ⟨first, installConfig⟩ := settled
        cases first <;> rfl

/-- Of install configurations that can be loaded, one is as good as the other. -/
theorem gather_installConfig (agentConfig : Except LoadFault (Option AgentConfig))
    (hosts : Except LoadFault (Option HostList)) (i j : Option InstallConfig) :
    gather agentConfig hosts (.ok j) =
      (gather agentConfig hosts (.ok i)).map fun b => { b with installConfig := j } := by
  unfold gather
  cases settle none agentConfig with
  | error f => rfl
  | ok settled =>
    obtain ⟨first, agentConfig⟩ := settled
    dsimp only
    cases settle first hosts with
    | error f => rfl
    | ok settled =>
      obtain ⟨first, hosts⟩ := settled
      cases first <;> rfl

/-- Hosts that cannot be loaded, for a reason that nobody expects, end the loading before the install configuration. -/
theorem gather_of_unexpected {f : LoadFault} (unexpected : f.reason.isExpected = false)
    (agentConfig : Except LoadFault (Option AgentConfig)) (o o' : Except LoadFault (Option InstallConfig))
    (g : Bundle → Bundle) : gather agentConfig (.error f) o' = (gather agentConfig (.error f) o).map g := by
  unfold gather
  cases settle none agentConfig with
  | error f => rfl
  | ok settled => simp [settle, unexpected, Except.map]

end Bundle

/-- Two folders with the same files but for the install configuration, which can be loaded from either, if it is there. -/
structure DifferInKeys [Yaml.Room] (env : Environment) (t : Tree) (folder : Path) (t' : Tree) (folder' : Path) : Prop where
  isFolder : t'.isFolder folder' = t.isFolder folder
  files : ∀ a, a ≠ Asset.installConfig → t'.file? (folder'.child a.fileName) = t.file? (folder.child a.fileName)
  loads : ∀ contents, t.file? (folder.child Asset.installConfig.fileName) = .ok (some contents) →
    ∃ c, ((Store.empty folder).load t env .installConfig).outcome = .ok c
  loads' : ∀ contents, t'.file? (folder'.child Asset.installConfig.fileName) = .ok (some contents) →
    ∃ c, ((Store.empty folder').load t' env .installConfig).outcome = .ok c

/-- An install configuration that can be loaded if it is there is loaded or not there, or nothing can be told of it; then
nothing can be told of the hosts either, whose path is longer. -/
theorem installConfig_cases [Yaml.Room] {t : Tree} {folder : Path} {env : Environment}
    (loads : ∀ contents, t.file? (folder.child Asset.installConfig.fileName) = .ok (some contents) →
      ∃ c, ((Store.empty folder).load t env .installConfig).outcome = .ok c) :
    (∃ c, ((Store.empty folder).load t env .installConfig).outcome = .ok c) ∨
      ∃ f, t.file? (folder.child Asset.hosts.fileName) = .error f := by
  have new : (Store.empty folder).cached .installConfig = none := rfl
  cases found : t.file? (folder.child Asset.installConfig.fileName) with
  | error f =>
    exact .inr (Tree.file?_error_of_longer (below_fileName .installConfig) (below_fileName .hosts)
      (by decide +kernel) (by decide) (by decide +kernel) found)
  | ok there =>
    cases there with
    | none => exact .inl ⟨none, by rw [load_absent new found]⟩
    | some contents => exact .inl (loads contents found)

/-- All assets of the other folder are the same but for the install configuration, or the same fault is met. -/
theorem DifferInKeys.outcome_load [Library] {env : Environment} {t t' : Tree} {folder folder' : Path}
    (h : DifferInKeys env t folder t' folder') :
    ∃ installConfig, (Bundle.load t' env (.empty folder')).2.2 =
      ((Bundle.load t env (.empty folder)).2.2.map fun b => { b with installConfig }).mapError
        (BundleFault.told folder') := by
  have sameHosts := h.files .hosts (by decide)
  have commutes : ∀ (r : Except BundleFault Bundle) (g : Bundle → Bundle),
      (r.mapError (BundleFault.told folder')).map g = (r.map g).mapError (BundleFault.told folder') := by
    intro r g
    cases r <;> rfl
  have hidden : ∀ f, t.file? (folder.child Asset.hosts.fileName) = .error f →
      ∃ installConfig, (Bundle.load t' env (.empty folder')).2.2 =
        ((Bundle.load t env (.empty folder)).2.2.map fun b => { b with installConfig }).mapError
          (BundleFault.told folder') := by
    intro f hosts
    have new : ∀ folder, (Store.empty folder).cached .hosts = none := fun _ => rfl
    refine ⟨none, ?_⟩
    rw [← commutes, Bundle.outcome_load t env, ← Bundle.gather_told, Bundle.outcome_load,
      ← outcome_load_told env (h.files .agentConfig (by decide)), ← outcome_load_told env sameHosts,
      load_hidden (new folder') (sameHosts.trans hosts)]
    exact Bundle.gather_of_unexpected rfl _ _ _ _
  rcases installConfig_cases h.loads with ⟨i, loads⟩ | ⟨f, hosts⟩
  · rcases installConfig_cases h.loads' with ⟨j, loads'⟩ | ⟨f, hosts⟩
    · refine ⟨j, ?_⟩
      rw [Bundle.outcome_load, Bundle.outcome_load, loads, loads', ← Bundle.gather_installConfig,
        outcome_load_told env (h.files .agentConfig (by decide)), outcome_load_told env sameHosts, ← Bundle.gather_told]
      rfl
    · exact hidden f (sameHosts.symm.trans hosts)
  · exact hidden f hosts

end InstallWatch.Asset
