import Mathlib
import InstallWatch.Proofs.Address.Canonical
import InstallWatch.Proofs.Rendezvous.Choice
import InstallWatch.Service.Connection

/-!
Where a rendezvous host is known, the service has a location. The text of the host's address is read as this address
again, though blanks around it would not be passed over any more, so that connecting fails on account of the folder or
of the choice of the host only.
-/

namespace InstallWatch.RendezvousHost
open InstallWatch.Results

theorem Designates.reads {config : AgentConfig} {hosts : List Host} {a : Address} (h : Designates config hosts a) :
    ∃ written, Reads written a := by
  obtain ⟨pin, -, -, reads, -⟩ | ⟨-, ⟨h, hh, isMarked⟩, known⟩ | ⟨-, h, -, -, t, -, reads⟩ := h
  · exact ⟨pin, reads⟩
  · obtain ⟨t, -, reads⟩ := known h hh isMarked
    exact ⟨t, reads⟩
  · exact ⟨t, reads⟩

/-- The address that is found was written somewhere, so its text can be written in its place. -/
theorem reads_text_of_find {config : Option AgentConfig} {manifests : Option HostList} {a : Address}
    (h : find config manifests = .ok a) : Reads a.text a := by
  obtain ⟨⟨c, hosts⟩, -, chosen⟩ := bind_eq_ok_iff.mp h
  obtain ⟨written, reads⟩ := (choose_eq_ok_iff.mp chosen).reads
  exact Address.parseTrimmed?_text reads

end InstallWatch.RendezvousHost

namespace InstallWatch.Service

/-- The location for an address as its text is the one for the address. -/
theorem Location.ofText?_text (a : Address) (settings : Settings) :
    ofText? a.text settings = some (ofAddress a settings) := by
  rw [ofText?, Address.parse?_text, Option.map_some]

theorem Location.ofText?_eq_some_iff {address : String} {settings : Settings} {l : Location} :
    ofText? address settings = some l ↔ ∃ a, Address.parse? address = some a ∧ l = ofAddress a settings := by
  rw [ofText?, Option.map_eq_some_iff]
  exact exists_congr fun a => and_congr_right fun _ => eq_comm

namespace Client

variable {T : Type} [Seconds T]

/-- The client for what a folder says about the service. -/
def ofDestination (d : Destination) (s : Settings) : Client T :=
  make (.ofAddress d.address s) s d.address.text d.sshKeys

/-- What a folder says about the service is all that connecting depends on. -/
theorem connect_eq [Asset.Library] (t : Files.Tree) (env : Environment) (folder : Files.Path) (settings : Settings) (s : Session T) :
    connect t env folder settings s = match Destination.ofFolder t env folder with
      | (es, .error f) => (s.log es, .error f)
      | (es, .ok d) => (attach (s.log es), .ok (ofDestination d settings)) := by
  unfold connect
  generalize Destination.ofFolder t env folder = destination
  obtain ⟨es, d⟩ := destination
  cases d with
  | error f => rfl
  | ok d => simp only [Location.ofText?_text, ofDestination]

end Client

namespace Destination

theorem ofBundle_ne_unlocated (b : Asset.Bundle) (address : String) :
    (ofBundle b).2 ≠ .error (.unlocated address) := by
  unfold ofBundle
  split <;> simp

/-- What is wrong with a folder is never that the host has no location. -/
theorem ofFolder_ne_unlocated [Asset.Library] (t : Files.Tree) (env : Environment) (folder : Files.Path) (address : String) :
    (ofFolder t env folder).2 ≠ .error (.unlocated address) := by
  unfold ofFolder
  split
  · simp
  · simp
  · split
    · simp
    · exact ofBundle_ne_unlocated _ address

end Destination

section
variable {T : Type} [Seconds T] [Asset.Library]

theorem Client.connect_ne_unlocated (t : Files.Tree) (env : Environment) (folder : Files.Path) (settings : Settings)
    (s : Session T) (address : String) : (connect t env folder settings s).2 ≠ .error (.unlocated address) := by
  have sound := Destination.ofFolder_ne_unlocated t env folder address
  rw [connect_eq]
  generalize Destination.ofFolder t env folder = destination at sound
  obtain ⟨es, d⟩ := destination
  cases d with
  | error f => simpa using sound
  | ok d => simp

/-- Every text that comes out as the rendezvous host's address has a location whose host is this very text, so that
connecting never fails for want of one; and it could as well be pinned. Reading a text as an address, with the blanks
around it or without them, and writing it changes nothing the second time; nor does making a location. -/
theorem found_host_is_located :
    (∀ config manifests settings t, (RendezvousHost.find config manifests).map Address.text = .ok t →
      (∃ l, Location.ofText? t settings = some l ∧ l.host = t) ∧ (Address.parseTrimmed? t).map Address.text = some t) ∧
    (∀ (tree : Files.Tree) env folder settings (s : Session T) address,
      (Client.connect tree env folder settings s).2 ≠ .error (.unlocated address)) ∧
    (∀ written t, (Address.parse? written).map Address.text = some t →
      (Address.parse? t).map Address.text = some t) ∧
    (∀ written t, (Address.parseTrimmed? written).map Address.text = some t →
      (Address.parseTrimmed? t).map Address.text = some t) ∧
    (∀ written settings l, Location.ofText? written settings = some l →
      ∀ settings', ∃ l', Location.ofText? l.host settings' = some l' ∧ l'.host = l.host) := by
  refine ⟨?_, Client.connect_ne_unlocated, ?_, ?_, ?_⟩
  · intro config manifests settings t h
    cases found : RendezvousHost.find config manifests with
    | error f =>
      rw [found] at h
      cases h
    | ok a =>
      rw [found] at h
      cases h
      have read : Address.parseTrimmed? a.text = some a := RendezvousHost.reads_text_of_find found
      refine ⟨⟨.ofAddress a settings, Location.ofText?_text a settings, rfl⟩, ?_⟩
      rw [read, Option.map_some]
  · intro written t h
    obtain ⟨a, -, rfl⟩ := Option.map_eq_some_iff.mp h
    rw [Address.parse?_text, Option.map_some]
  · intro written t h
    obtain ⟨a, read, rfl⟩ := Option.map_eq_some_iff.mp h
    rw [Address.parseTrimmed?_text read, Option.map_some]
  · intro written settings l h settings'
    obtain ⟨a, -, rfl⟩ := Location.ofText?_eq_some_iff.mp h
    exact ⟨.ofAddress a settings', Location.ofText?_text a settings', rfl⟩

end

attribute [local instance] Asset.Library.plain

/-- Of two runs of zero groups the first is left out; the blank that a scope ends with stays if it is not trimmed. -/
theorem found_host_is_located_scoped :
    let pinned := { AgentConfig.empty with rendezvousIp := some " 0001:0:0:2:0:0:0.3.0.4%eth 0 " }
    ((RendezvousHost.find (some pinned) none).map Address.text = .ok "1::2:0:0:3:4%eth 0" ∧
      (∃ l, Location.ofText? "1::2:0:0:3:4%eth 0" .standard = some l ∧ l.host = "1::2:0:0:3:4%eth 0") ∧
      (Address.parseTrimmed? "1::2:0:0:3:4%eth 0").map Address.text = some "1::2:0:0:3:4%eth 0") ∧
    ((Address.parse? "0001::2:0:0:3:4%eth0 ").map Address.text = some "1::2:0:0:3:4%eth0 " ∧
      (Address.parse? "1::2:0:0:3:4%eth0 ").map Address.text = some "1::2:0:0:3:4%eth0 ") ∧
    ((Address.parseTrimmed? " ::FFFF:10.0.0.5\t").map Address.text = some "::ffff:a00:5" ∧
      (Address.parseTrimmed? "::ffff:a00:5").map Address.text = some "::ffff:a00:5") ∧
    ∃ l, Location.ofText? "0:0::0%a b" .standard = some l ∧
      ∃ l', Location.ofText? l.host .standard = some l' ∧ l'.host = l.host := by
  obtain ⟨located, -, reread, retrimmed, relocated⟩ := found_host_is_located (T := Float)
  have found : (RendezvousHost.find (some { AgentConfig.empty with
      rendezvousIp := some " 0001:0:0:2:0:0:0.3.0.4%eth 0 " }) none).map Address.text = .ok "1::2:0:0:3:4%eth 0" := by
    decide +kernel
  have read : (Address.parse? "0001::2:0:0:3:4%eth0 ").map Address.text = some "1::2:0:0:3:4%eth0 " := by
    decide +kernel
  have trimmed : (Address.parseTrimmed? " ::FFFF:10.0.0.5\t").map Address.text = some "::ffff:a00:5" := by
    decide +kernel
  have unscoped : (Location.ofText? "0:0::0%a b" .standard).isSome = true := by decide +kernel
  obtain ⟨l, hl⟩ := Option.isSome_iff_exists.mp unscoped
  exact ⟨⟨found, located _ _ .standard _ found⟩, ⟨read, reread _ _ read⟩, ⟨trimmed, retrimmed _ _ trimmed⟩, l, hl,
    relocated _ _ _ hl .standard⟩

end InstallWatch.Service
