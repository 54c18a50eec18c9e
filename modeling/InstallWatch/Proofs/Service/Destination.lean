import Mathlib
import InstallWatch.Proofs.Asset.Folders
import InstallWatch.Proofs.Service.Connection
import InstallWatch.Proofs.Service.Exchange

/-!
What connecting does, and what it depends on. Where it fails, it has only noted why; where it succeeds, it has registered
the closing of the connection and nothing else. The address of the rendezvous host is chosen by the agent configuration
and the manifests alone, and the install configuration has a say in the keys alone.
-/

namespace InstallWatch.Service
open InstallWatch.Asset

/-- The fault, had it been met with another folder. -/
def ConnectionFault.told (folder : Files.Path) : ConnectionFault → ConnectionFault
  | noFolder _ => noFolder folder
  | assets f => assets (f.told folder)
  | f => f

namespace Destination

theorem ofBundle_eq_ok_iff {b : Bundle} {d : Destination} :
    (ofBundle b).2 = .ok d ↔ RendezvousHost.find b.agentConfig b.hosts = .ok d.address ∧
      d.sshKeys = (b.installConfig.map (·.sshKeys)).getD [] := by
  obtain ⟨address, sshKeys⟩ := d
  unfold ofBundle
  cases RendezvousHost.find b.agentConfig b.hosts with
  | error f => simp
  | ok a => simp [eq_comm]

/-- The install configuration changes nothing but the keys. -/
theorem ofBundle_installConfig (b : Bundle) (i : Option InstallConfig) :
    (ofBundle { b with installConfig := i }).2 =
      (ofBundle b).2.map fun d => { d with sshKeys := (i.map (·.sshKeys)).getD [] } := by
  unfold ofBundle
  cases RendezvousHost.find b.agentConfig b.hosts <;> rfl

theorem ofBundle_told (b : Bundle) (folder : Files.Path) :
    (ofBundle b).2.mapError (ConnectionFault.told folder) = (ofBundle b).2 := by
  unfold ofBundle
  cases RendezvousHost.find b.agentConfig b.hosts <;> rfl

section
variable [Library]

/-- What a folder says, given what its assets do. -/
theorem ofFolder_outcome (t : Files.Tree) (env : Environment) (folder : Files.Path) :
    (ofFolder t env folder).2 = match t.isFolder folder with
      | .error f => .error (.unreachable f)
      | .ok false => .error (.noFolder folder)
      | .ok true => match (Bundle.load t env (.empty folder)).2.2 with
        | .error f => .error (.assets f)
        | .ok b => (ofBundle b).2 := by
  unfold ofFolder Store.openAt
  cases t.isFolder folder with
  | error f => rfl
  | ok there =>
    cases there with
    | false => rfl
    | true =>
      simp only [Except.map, ↓reduceIte]
      obtain ⟨s, entries, result⟩ := Bundle.load t env (.empty folder)
      cases result <;> rfl

/-- Where a folder tells of the service, all its assets are loaded, and the install configuration tells the keys only. -/
theorem of_ofFolder {t : Files.Tree} {env : Environment} {folder : Files.Path} {d : Destination}
    (h : (ofFolder t env folder).2 = .ok d) :
    ∃ b : Bundle, (∀ a, ((Store.empty folder).load t env a).outcome = .ok (b.content a)) ∧
      RendezvousHost.find b.agentConfig b.hosts = .ok d.address ∧
      d.sshKeys = (b.installConfig.map (·.sshKeys)).getD [] := by
  rw [ofFolder_outcome] at h
  split at h
  · cases h
  · cases h
  · split at h
    · cases h
    · rename_i b loaded
      exact ⟨b, Bundle.load_content loaded, ofBundle_eq_ok_iff.mp h⟩

/-- Two folders that differ in the install configuration only say the same, but for the keys. -/
theorem ofFolder_of_differ {t t' : Files.Tree} {env : Environment} {folder folder' : Files.Path}
    (h : DifferInKeys env t folder t' folder') :
    ∃ keys, (ofFolder t' env folder').2 =
      ((ofFolder t env folder).2.map fun d => { d with sshKeys := keys }).mapError (ConnectionFault.told folder') := by
  obtain ⟨i, loaded⟩ := h.outcome_load
  refine ⟨(i.map (·.sshKeys)).getD [], ?_⟩
  rw [ofFolder_outcome, ofFolder_outcome, h.isFolder, loaded]
  cases t.isFolder folder with
  | error f => rfl
  | ok there =>
    cases there with
    | false => rfl
    | true =>
      dsimp only
      cases (Bundle.load t env (.empty folder)).2.2 with
      | error f => rfl
      | ok b =>
        show (ofBundle { b with installConfig := i }).2 = _
        rw [ofBundle_installConfig]
        have same := ofBundle_told { b with installConfig := i } folder'
        rw [ofBundle_installConfig] at same
        exact same.symm

end

end Destination

variable {T : Type} [Seconds T]

namespace Client

/-- What connecting to the host of a folder has come to. -/
structure Connected [Library] (t : Files.Tree) (env : Environment) (folder : Files.Path) (s s' : Session T) (c : Client T) :
    Prop where
  unsent : s'.requests = s.requests
  isCancelled : s'.lifetime.isCancelled = s.lifetime.isCancelled
  deadline : s'.lifetime.deadline = s.lifetime.deadline
  /-- Unless the lifetime is cancelled, the closing of the connection waits in it besides what did before. -/
  pending : s'.lifetime.pending = s.lifetime.pending ++ if s.lifetime.isCancelled then [] else [.close]
  host : c.location.host = c.address
  /-- The address is the one that the agent configuration and the manifests designate. -/
  resolved : ∃ agentConfig hosts a, ((Store.empty folder).load t env .agentConfig).outcome = .ok agentConfig ∧
    ((Store.empty folder).load t env .hosts).outcome = .ok hosts ∧
    RendezvousHost.find agentConfig hosts = .ok a ∧ c.address = a.text
  /-- The key of the install configuration, if there is one that is not empty. -/
  keys : ∃ installConfig, ((Store.empty folder).load t env .installConfig).outcome = .ok installConfig ∧
    c.sshKeys = match installConfig with
      | none => []
      | some i => if i.sshKey = "" then [] else [i.sshKey]

/-- Two attempts to connect have come to the same: both to the same fault, told of the other folder, or both to a client,
with the same of everything but the keys. -/
inductive SameButKeys (folder' : Files.Path) :
    Except ConnectionFault (Client T) → Except ConnectionFault (Client T) → Prop where
  | failed (f : ConnectionFault) : SameButKeys folder' (.error f) (.error (f.told folder'))
  | connected (c : Client T) (keys : List String) : SameButKeys folder' (.ok c) (.ok { c with sshKeys := keys })

omit [Seconds T] in
/-- To take up a session registers the closing of the connection, if the lifetime is not cancelled. -/
theorem lifetime_attach (s : Session T) :
    (attach s).lifetime = { s.lifetime with
      pending := s.lifetime.pending ++ if s.lifetime.isCancelled then [] else [.close] } := by
  unfold attach Session.register Lifetime.register
  cases cancelled : s.lifetime.isCancelled with
  | true => simp [Session.runHook, Session.shut]
  | false => simp [cancelled]

omit [Seconds T] in
theorem requests_attach (s : Session T) : (attach s).requests = s.requests := by
  unfold attach Session.register Lifetime.register
  cases s.lifetime.isCancelled <;> rfl

section
variable [Library]

theorem untouched_of_connect {t : Files.Tree} {env : Environment} {folder : Files.Path} {settings : Settings}
    {s s' : Session T} {f : ConnectionFault} (h : connect t env folder settings s = (s', .error f)) :
    ∃ es, s' = s.log es := by
  rw [connect_eq] at h
  generalize Destination.ofFolder t env folder = found at h
  obtain ⟨es, d⟩ := found
  cases d with
  | ok d => cases h
  | error f =>
    cases h
    exact ⟨es, rfl⟩

theorem connected_of_connect {t : Files.Tree} {env : Environment} {folder : Files.Path} {settings : Settings}
    {s s' : Session T} {c : Client T} (h : connect t env folder settings s = (s', .ok c)) :
    Connected t env folder s s' c := by
  rw [connect_eq] at h
  have found := fun d => @Destination.of_ofFolder _ t env folder d
  generalize Destination.ofFolder t env folder = destination at h found
  obtain ⟨es, d⟩ := destination
  cases d with
  | error f => cases h
  | ok d =>
    cases h
    obtain ⟨b, loads, resolved, keys⟩ := found d rfl
    have lifetime := lifetime_attach (s.log es)
    refine ⟨requests_attach _, ?_, ?_, ?_, rfl, ?_, ?_⟩
    · rw [lifetime]
      rfl
    · rw [lifetime]
      rfl
    · rw [lifetime]
      rfl
    · exact ⟨_, _, d.address, loads .agentConfig, loads .hosts, resolved, rfl⟩
    · refine ⟨_, loads .installConfig, ?_⟩
      show d.sshKeys = _
      rw [keys]
      show _ = match b.installConfig with
        | none => []
        | some i => if i.sshKey = "" then [] else [i.sshKey]
      cases b.installConfig <;> rfl

theorem sameButKeys_of_differ {env : Environment} {t t' : Files.Tree} {folder folder' : Files.Path}
    (h : DifferInKeys env t folder t' folder') (settings : Settings) (s s' : Session T) :
    SameButKeys folder' (connect t env folder settings s).2 (connect t' env folder' settings s').2 := by
  obtain ⟨keys, same⟩ := Destination.ofFolder_of_differ h
  rw [connect_eq, connect_eq]
  generalize Destination.ofFolder t env folder = found at same ⊢
  generalize Destination.ofFolder t' env folder' = found' at same ⊢
  obtain ⟨es, d⟩ := found
  obtain ⟨es', d'⟩ := found'
  dsimp only at same
  subst same
  cases d with
  | error f => exact .failed f
  | ok d => exact .connected (ofDestination d settings) keys

/-- Whatever the files, the variables, the settings and the session are: where connecting fails, it has only noted what it
met; where it succeeds, it has sent nothing and registered one thing at most, for the address that the agent
configuration and the manifests designate. Only the keys depend on the install configuration, if it can be loaded. -/
theorem connect_confined (env : Environment) (settings : Settings) :
    (∀ t folder (s s' : Session T) f, connect t env folder settings s = (s', .error f) → ∃ es, s' = s.log es) ∧
    (∀ t folder (s s' : Session T) c, connect t env folder settings s = (s', .ok c) →
      Connected t env folder s s' c) ∧
    ∀ t folder t' folder' (s s' : Session T), DifferInKeys env t folder t' folder' →
      SameButKeys folder' (connect t env folder settings s).2 (connect t' env folder' settings s').2 :=
  ⟨fun _ _ _ _ _ => untouched_of_connect, fun _ _ _ _ _ => connected_of_connect,
    fun _ _ _ _ s s' differ => sameButKeys_of_differ differ settings s s'⟩

end

section
attribute [local instance] Library.plain

/-- Two installations with the same host, of which the first one has a key. -/
def twoSites : Files.Tree :=
  ⟨⟨.root, []⟩, [(["keyed", "agent-config.yaml"], .file "rendezvousIP: 10.0.0.5\n".toUTF8.data.toList),
    (["keyed", "install-config.yaml"], .file "sshKey: ssh-ed25519 AAAA\n".toUTF8.data.toList),
    (["plain", "agent-config.yaml"], .file "rendezvousIP: 10.0.0.5\n".toUTF8.data.toList)]⟩

theorem differInKeys_twoSites :
    DifferInKeys .empty twoSites ⟨.root, ["keyed"]⟩ twoSites ⟨.root, ["plain"]⟩ where
  isFolder := by decide +kernel
  files a other := by
    cases a with
    | agentConfig => decide +kernel
    | hosts => decide +kernel
    | installConfig => exact absurd rfl other
  loads _ _ := by
    have loaded : ((Store.empty ⟨.root, ["keyed"]⟩).load twoSites .empty .installConfig).outcome.isOk = true := by
      decide +kernel
    cases outcome : ((Store.empty ⟨.root, ["keyed"]⟩).load twoSites .empty .installConfig).outcome with
    | error f =>
      rw [outcome] at loaded
      cases loaded
    | ok found => exact ⟨found, rfl⟩
  loads' _ _ := ⟨none, by rfl⟩

/-- The key of the one site is not known at the other, and nothing else is different; where there is no site, nothing is
registered. -/
theorem connect_confined_two_sites :
    let s : Session Float := .start 0.0 .unbounded ⟨[]⟩
    (∃ s' f, connect twoSites .empty ⟨.root, ["none"]⟩ .standard s = (s', .error f) ∧ ∃ es, s' = s.log es) ∧
    ∃ s' c, connect twoSites .empty ⟨.root, ["keyed"]⟩ .standard s = (s', .ok c) ∧
      Connected twoSites .empty ⟨.root, ["keyed"]⟩ s s' c ∧ c.sshKeys = ["ssh-ed25519 AAAA"] ∧
      (connect twoSites .empty ⟨.root, ["plain"]⟩ .standard s).2 = .ok { c with sshKeys := [] } := by
  intro s
  obtain ⟨fails, connects, differ⟩ := connect_confined (T := Float) .empty .standard
  have missing : (connect twoSites .empty ⟨.root, ["none"]⟩ .standard s).2.isOk = false := by decide +kernel
  have keyed : (connect twoSites .empty ⟨.root, ["keyed"]⟩ .standard s).2.toOption.map (·.sshKeys) =
    some ["ssh-ed25519 AAAA"] := by decide +kernel
  have plain : (connect twoSites .empty ⟨.root, ["plain"]⟩ .standard s).2.toOption.map (·.sshKeys) = some [] := by
    decide +kernel
  have same := differ _ _ _ _ s s differInKeys_twoSites
  refine ⟨?_, ?_⟩
  · rcases failed : connect twoSites .empty ⟨.root, ["none"]⟩ .standard s with ⟨s', f | c⟩
    · exact ⟨s', f, rfl, fails _ _ _ _ _ failed⟩
    · rw [failed] at missing
      cases missing
  · rcases connected : connect twoSites .empty ⟨.root, ["keyed"]⟩ .standard s with ⟨s', f | c⟩
    · rw [connected] at keyed
      cases keyed
    · rw [connected] at keyed same
      refine ⟨s', c, rfl, connects _ _ _ _ _ connected, Option.some.inj keyed, ?_⟩
      generalize (connect twoSites .empty ⟨.root, ["plain"]⟩ .standard s).2 = other at same plain ⊢
      cases same with
      | connected keys =>
        cases plain
        rfl

end

end Client

end InstallWatch.Service
