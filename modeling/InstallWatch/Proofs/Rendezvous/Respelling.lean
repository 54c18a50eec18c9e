import Mathlib
import InstallWatch.Proofs.Address.Spelling
import InstallWatch.Proofs.Rendezvous.Choice

/-!
What the choice of the rendezvous host does not depend on: the order of the hosts, and how their addresses and the pinned
one are spelled. The same address comes out, or a fault of the same class.
-/

namespace InstallWatch
open Results

/-- A text in place of another: the same one, or another spelling of the address that it spells. -/
def Respelt (s s' : String) : Prop := s = s' ∨ ∃ a : Address, a.Spells s ∧ a.Spells s'

/-- The same entry, but for the spelling of its address. -/
structure AddressEntry.Respelt (e e' : AddressEntry) : Prop where
  ip : InstallWatch.Respelt e.ip e'.ip
  prefixLength : e.prefixLength = e'.prefixLength
  kept : e.kept = e'.kept

structure AddressFamily.Respelt (f f' : AddressFamily) : Prop where
  enabled : f.enabled = f'.enabled
  address : Option.Rel (List.Forall₂ AddressEntry.Respelt) f.address f'.address
  kept : f.kept = f'.kept

structure Interface.Respelt (i i' : Interface) : Prop where
  name : i.name = i'.name
  type : i.type = i'.type
  ipv4 : Option.Rel AddressFamily.Respelt i.ipv4 i'.ipv4
  ipv6 : Option.Rel AddressFamily.Respelt i.ipv6 i'.ipv6
  kept : i.kept = i'.kept

structure NetworkState.Respelt (n n' : NetworkState) : Prop where
  interfaces : Option.Rel (List.Forall₂ Interface.Respelt) n.interfaces n'.interfaces
  kept : n.kept = n'.kept

/-- The same host, but for the spelling of its addresses. -/
structure Host.Respelt (h h' : Host) : Prop where
  apiVersion : h.apiVersion = h'.apiVersion
  kind : h.kind = h'.kind
  metadata : h.metadata = h'.metadata
  network : h.spec.config.Respelt h'.spec.config

/-- The same configuration, but for the spelling of the pinned address. -/
structure AgentConfig.Respelt (c c' : AgentConfig) : Prop where
  apiVersion : c.apiVersion = c'.apiVersion
  kind : c.kind = c'.kind
  metadata : c.metadata = c'.metadata
  pin : Option.Rel InstallWatch.Respelt c.rendezvousIp c'.rendezvousIp

namespace Respelt
open RendezvousHost

variable {s s' : String}

theorem symm (h : Respelt s s') : Respelt s' s := by
  rcases h with rfl | ⟨a, spells, spells'⟩
  · exact .inl rfl
  · exact .inr ⟨a, spells', spells⟩

theorem of_read (read : (Address.parseTrimmed? s).isSome = true)
    (same : Address.parseTrimmed? s = Address.parseTrimmed? s') : Respelt s s' := by
  obtain ⟨a, ha⟩ := Option.isSome_iff_exists.mp read
  exact .inr ⟨a, Address.parseTrimmed?_eq_some_iff.mp ha, Address.parseTrimmed?_eq_some_iff.mp (same ▸ ha)⟩

/-- Both texts stand for the same address, if for any. -/
theorem reads (h : Respelt s s') {a : Address} (read : Reads s a) : Reads s' a := by
  rcases h with rfl | ⟨b, spells, spells'⟩
  · exact read
  · have first : Reads s b := Address.parseTrimmed?_eq_some_iff.mpr spells
    have second : Reads s' b := Address.parseTrimmed?_eq_some_iff.mpr spells'
    have same : a = b := Option.some.inj (read.symm.trans first)
    rwa [same]

/-- No address is spelled by saying nothing. -/
theorem eq_empty (h : Respelt s s') (none : s = "") : s' = "" := by
  subst none
  rcases h with same | ⟨a, spells, -⟩
  · exact same.symm
  · have read := Address.parseTrimmed?_eq_some_iff.mpr spells
    rw [show Address.parseTrimmed? "" = Option.none by decide] at read
    cases read

theorem eq_empty_iff (h : Respelt s s') : s = "" ↔ s' = "" := ⟨h.eq_empty, h.symm.eq_empty⟩

end Respelt

/-! ## The same relation from the other side -/

theorem rel_symm {α β : Type} {R : α → β → Prop} {S : β → α → Prop} (h : ∀ a b, R a b → S b a) {o : Option α}
    {o' : Option β} (r : Option.Rel R o o') : Option.Rel S o' o := by
  cases r with
  | some r => exact .some (h _ _ r)
  | none => exact .none

theorem AddressEntry.Respelt.symm {e e' : AddressEntry} (h : e.Respelt e') : e'.Respelt e :=
  ⟨h.ip.symm, h.prefixLength.symm, h.kept.symm⟩

theorem AddressFamily.Respelt.symm {f f' : AddressFamily} (h : f.Respelt f') : f'.Respelt f :=
  ⟨h.enabled.symm, rel_symm (fun _ _ each => (each.imp fun _ _ => AddressEntry.Respelt.symm).flip) h.address,
    h.kept.symm⟩

theorem Interface.Respelt.symm {i i' : Interface} (h : i.Respelt i') : i'.Respelt i :=
  ⟨h.name.symm, h.type.symm, rel_symm (fun _ _ => AddressFamily.Respelt.symm) h.ipv4,
    rel_symm (fun _ _ => AddressFamily.Respelt.symm) h.ipv6, h.kept.symm⟩

theorem NetworkState.Respelt.symm {n n' : NetworkState} (h : n.Respelt n') : n'.Respelt n :=
  ⟨rel_symm (fun _ _ each => (each.imp fun _ _ => Interface.Respelt.symm).flip) h.interfaces, h.kept.symm⟩

theorem Host.Respelt.symm {h h' : Host} (r : h.Respelt h') : h'.Respelt h :=
  ⟨r.apiVersion.symm, r.kind.symm, r.metadata.symm, r.network.symm⟩

theorem AgentConfig.Respelt.symm {c c' : AgentConfig} (h : c.Respelt c') : c'.Respelt c :=
  ⟨h.apiVersion.symm, h.kind.symm, h.metadata.symm, rel_symm (fun _ _ => InstallWatch.Respelt.symm) h.pin⟩

/-! ## Addresses of hosts -/

theorem rel_getD {α β : Type} {R : α → β → Prop} {o : Option (List α)} {o' : Option (List β)}
    (r : Option.Rel (List.Forall₂ R) o o') : List.Forall₂ R (o.getD []) (o'.getD []) := by
  cases r with
  | some each => exact each
  | none => exact .nil

theorem AddressFamily.Respelt.addresses {f f' : AddressFamily} (h : f.Respelt f') :
    List.Forall₂ InstallWatch.Respelt f.addresses f'.addresses := by
  unfold AddressFamily.addresses
  rw [h.enabled]
  split
  · exact .nil
  · refine List.rel_filter (fun s s' same => ?_) (List.rel_map (fun e e' same => ?_) (rel_getD h.address))
    · simpa using not_congr same.eq_empty_iff
    · exact same.ip

theorem NetworkState.Respelt.addresses {n n' : NetworkState} (h : n.Respelt n') :
    List.Forall₂ InstallWatch.Respelt n.addresses n'.addresses := by
  have of_family : ∀ {family family' : Option AddressFamily}, Option.Rel AddressFamily.Respelt family family' →
      List.Forall₂ InstallWatch.Respelt ((family.map AddressFamily.addresses).getD [])
        ((family'.map AddressFamily.addresses).getD []) := by
    intro family family' same
    cases same with
    | some same => exact same.addresses
    | none => exact .nil
  have interfaces := rel_getD h.interfaces
  exact List.rel_append (List.rel_flatMap interfaces fun i i' same => of_family same.ipv4)
    (List.rel_flatMap interfaces fun i i' same => of_family same.ipv6)

namespace Host.Respelt

variable {h h' : Host}

theorem marked_iff (r : h.Respelt h') : h.Marked ↔ h'.Marked := by
  rw [Host.Marked, Host.Marked, r.metadata]

theorem addresses (r : h.Respelt h') : List.Forall₂ InstallWatch.Respelt h.addresses h'.addresses :=
  r.network.addresses

end Host.Respelt

namespace RendezvousHost

theorem KnownBy.respelt {h h' : Host} (r : h.Respelt h') {a : Address} (known : KnownBy h a) : KnownBy h' a := by
  obtain ⟨t, first, read⟩ := known
  have each := r.addresses
  rw [← Host.firstAddress?_eq_some_iff, Host.firstAddress?] at first
  cases hs : h.addresses with
  | nil =>
    rw [hs] at first
    cases first
  | cons u us =>
    rw [hs] at first each
    cases first
    obtain ⟨t', ts, same, -, hs'⟩ := List.forall₂_cons_left_iff.mp each
    refine ⟨t', Host.firstAddress?_eq_some_iff.mp ?_, same.reads read⟩
    rw [Host.firstAddress?, hs']
    rfl

theorem Declares.respelt {h h' : Host} (r : h.Respelt h') {t : String} (declares : Declares h t) :
    ∃ t', Declares h' t' ∧ Respelt t t' := by
  rw [← mem_addresses_iff] at declares
  obtain ⟨t', mem, same⟩ := exists_right_of_forall₂ r.addresses declares
  exact ⟨t', mem_addresses_iff.mp mem, same⟩

/-! ## The choice -/

/-- The same hosts in some order, but for the spelling of their addresses. -/
def Rearranged (hosts hosts' : List Host) : Prop := ∃ between, hosts.Perm between ∧ List.Forall₂ Host.Respelt between hosts'

/-- As many hosts on both sides, and each has its like on the other side. -/
structure Alike (hosts hosts' : List Host) : Prop where
  many : hosts.length = hosts'.length
  forth : ∀ h ∈ hosts, ∃ h' ∈ hosts', h.Respelt h'
  back : ∀ h' ∈ hosts', ∃ h ∈ hosts, h'.Respelt h

theorem Alike.symm {hosts hosts' : List Host} (h : Alike hosts hosts') : Alike hosts' hosts :=
  ⟨h.many.symm, h.back, h.forth⟩

theorem Rearranged.alike {hosts hosts' : List Host} (h : Rearranged hosts hosts') : Alike hosts hosts' := by
  obtain ⟨between, perm, each⟩ := h
  refine ⟨perm.length_eq.trans each.length_eq, fun h hh => ?_, fun h' hh' => ?_⟩
  · exact exists_right_of_forall₂ each (perm.mem_iff.mp hh)
  · obtain ⟨h, hh, same⟩ := exists_left_of_forall₂ each hh'
    exact ⟨h, perm.mem_iff.mpr hh, same.symm⟩

theorem Unpinned.respelt {c c' : AgentConfig} (r : c.Respelt c') (unpinned : Unpinned c) : Unpinned c' := by
  intro pin' given'
  have pins := r.pin
  rw [given'] at pins
  generalize given : c.rendezvousIp = o at pins
  cases pins with
  | some same => exact same.eq_empty (unpinned _ given)

section
variable {config config' : AgentConfig} {hosts hosts' : List Host} {a : Address}

theorem Alike.known (alike : Alike hosts hosts') (known : ∀ h ∈ hosts, h.Marked → KnownBy h a) :
    ∀ h' ∈ hosts', h'.Marked → KnownBy h' a := by
  intro h' hh' marked
  obtain ⟨h, hh, same⟩ := alike.back h' hh'
  exact (known h hh (same.marked_iff.mp marked)).respelt same.symm

/-- What singles an address out does so in any order and spelling. -/
theorem Designates.respelt (r : config.Respelt config') (alike : Alike hosts hosts') (d : Designates config hosts a) :
    Designates config' hosts' a := by
  cases d with
  | pinned pin given filled reads marked declared =>
    have pins := r.pin
    rw [given] at pins
    generalize given' : config'.rendezvousIp = o at pins
    cases pins with
    | @some _ pin' same =>
      refine .pinned pin' given' (mt same.symm.eq_empty filled) (same.reads reads) (alike.known marked) ?_
      -- every text on the other side has its like on this one, and is an address if that is
      rcases declared with rfl | ⟨all, h, hh, t, declares, read⟩
      · exact .inl (List.eq_nil_of_length_eq_zero alike.many.symm)
      · refine .inr ⟨fun h' hh' t' declares' => ?_, ?_⟩
        · obtain ⟨h, hh, back⟩ := alike.back h' hh'
          obtain ⟨t, declares, spelling⟩ := declares'.respelt back
          obtain ⟨b, read⟩ := all h hh t declares
          exact ⟨b, spelling.symm.reads read⟩
        · obtain ⟨h', hh', forth⟩ := alike.forth h hh
          obtain ⟨t', declares', spelling⟩ := declares.respelt forth
          exact ⟨h', hh', t', declares', spelling.reads read⟩
  | marked unpinned some known =>
    refine .marked (unpinned.respelt r) ?_ (alike.known known)
    obtain ⟨h, hh, marked⟩ := some
    obtain ⟨h', hh', same⟩ := alike.forth h hh
    exact ⟨h', hh', same.marked_iff.mp marked⟩
  | sole unpinned h only unmarked known =>
    subst only
    obtain ⟨h', rfl⟩ := List.length_eq_one_iff.mp alike.many.symm
    obtain ⟨_, hh', same⟩ := alike.forth h List.mem_cons_self
    obtain rfl := List.mem_singleton.mp hh'
    exact .sole (unpinned.respelt r) _ rfl (mt same.marked_iff.mpr unmarked) (known.respelt same)

end

/-- Outcomes with the same address, or with faults of the same class. -/
theorem mapError_isMissing_eq {r r' : Except Fault Address} (found : ∀ a, r = .ok a ↔ r' = .ok a)
    (missing : (∃ f, r = .error f ∧ f.isMissing = true) ↔ ∃ f, r' = .error f ∧ f.isMissing = true) :
    r.mapError Fault.isMissing = r'.mapError Fault.isMissing := by
  cases r with
  | ok a => rw [(found a).mp rfl]
  | error f =>
    cases r' with
    | ok a => cases (found a).mpr rfl
    | error f' =>
      have same : f.isMissing = true ↔ f'.isMissing = true := by simpa using missing
      rw [Except.mapError, Except.mapError, Bool.eq_iff_iff.mpr same]

/-- What is read as an address are its spellings, and neither the order of the hosts nor the spelling of an address
matters: the same address is chosen, or the choice fails for a fault of the same class. -/
theorem choose_indifferent :
    (∀ (s : String) (a : Address), Reads s a ↔ a.Spells s) ∧
    ∀ (config config' : AgentConfig) (hosts hosts' : List Host), config.Respelt config' → Rearranged hosts hosts' →
      (choose config hosts).mapError Fault.isMissing = (choose config' hosts').mapError Fault.isMissing := by
  refine ⟨fun s a => Address.parseTrimmed?_eq_some_iff, fun config config' hosts hosts' r rearranged => ?_⟩
  have alike := rearranged.alike
  apply mapError_isMissing_eq
  · intro a
    rw [choose_eq_ok_iff, choose_eq_ok_iff]
    exact ⟨.respelt r alike, .respelt r.symm alike.symm⟩
  · rw [choose_missing_iff, choose_missing_iff]
    refine and_congr ⟨.respelt r, .respelt r.symm⟩ ?_
    rw [← List.length_eq_zero_iff, ← List.length_eq_zero_iff, alike.many]

/-- A host that is not marked and has one address. -/
def hostAt (name ip : String) : Host :=
  let family : AddressFamily := ⟨none, some [⟨ip, none, []⟩], []⟩
  ⟨"", "", ⟨name, none, []⟩, ⟨⟨some [⟨none, none, none, some family, []⟩], []⟩⟩⟩

theorem respelt_hostAt {name ip ip' : String} (same : Respelt ip ip') : (hostAt name ip).Respelt (hostAt name ip') where
  apiVersion := rfl
  kind := rfl
  metadata := rfl
  network := ⟨.some (.cons ⟨rfl, rfl, .none, .some ⟨rfl, .some (.cons ⟨same, rfl, rfl⟩ .nil), rfl⟩, rfl⟩ .nil), rfl⟩

def pinnedTo (ip : String) : AgentConfig := { AgentConfig.empty with rendezvousIp := some ip }

/-- Two hosts change places, and their addresses and the pinned one their looks. -/
theorem choose_indifferent_looks :
    let hosts := [hostAt "a" "fe80:0::0001%eth0", hostAt "b" "2001:db8::a:b"]
    let hosts' := [hostAt "b" "2001:DB8:0:0:0:0:000A:B ", hostAt "a" "\tFE80::0.0.0.1%eth0"]
    let config := pinnedTo "fe80::1%eth0"
    let config' := pinnedTo " FE80:0000:0:0:0:0:0.0.0.1%eth0 "
    (config.Respelt config' ∧ Rearranged hosts hosts' ∧
      (choose config hosts).mapError Fault.isMissing = (choose config' hosts').mapError Fault.isMissing) ∧
    (choose config' hosts').map Address.text = .ok "fe80::1%eth0" := by
  have pin : (pinnedTo "fe80::1%eth0").Respelt (pinnedTo " FE80:0000:0:0:0:0:0.0.0.1%eth0 ") :=
    ⟨rfl, rfl, rfl, .some (.of_read (by decide +kernel) (by decide +kernel))⟩
  have first : Respelt "fe80:0::0001%eth0" "\tFE80::0.0.0.1%eth0" := .of_read (by decide +kernel) (by decide +kernel)
  have second : Respelt "2001:db8::a:b" "2001:DB8:0:0:0:0:000A:B " := .of_read (by decide +kernel) (by decide +kernel)
  have rearranged : Rearranged [hostAt "a" "fe80:0::0001%eth0", hostAt "b" "2001:db8::a:b"]
      [hostAt "b" "2001:DB8:0:0:0:0:000A:B ", hostAt "a" "\tFE80::0.0.0.1%eth0"] :=
    ⟨_, .swap _ _ _, .cons (respelt_hostAt second) (.cons (respelt_hostAt first) .nil)⟩
  exact ⟨⟨pin, rearranged, choose_indifferent.2 _ _ _ _ pin rearranged⟩, by decide +kernel⟩

end RendezvousHost

end InstallWatch
