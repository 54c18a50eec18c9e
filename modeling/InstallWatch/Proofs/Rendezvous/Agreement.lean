import Mathlib
import InstallWatch.Proofs.Address.Canonical
import InstallWatch.Proofs.Rendezvous.Choice

/-!
The choice with a pin against the choice without one. Hosts that settle on an address know and declare it, so pinning it
changes nothing, provided that all they declare are addresses; and as soon as a host is marked, a pin only ever repeats
what the hosts settle on.
-/

namespace InstallWatch

/-- The configuration, with this text as its pin. -/
def AgentConfig.pinning (c : AgentConfig) (pin : String) : AgentConfig := { c with rendezvousIp := some pin }

namespace RendezvousHost
open Results

/-- All addresses that the hosts declare are addresses. -/
def AllRead (hosts : List Host) : Prop := ∀ h ∈ hosts, ∀ t, Declares h t → ∃ b, Reads t b

section
variable {config : AgentConfig} {hosts : List Host} {h : Host} {pin : String} {a : Address}

theorem allRead_iff : AllRead hosts ↔ ∀ h ∈ hosts, ∀ t ∈ h.addresses, (Address.parseTrimmed? t).isSome = true := by
  simp only [AllRead, Reads, ← mem_addresses_iff, Option.isSome_iff_exists]

/-- An address by which a host is known is one that it declares. -/
theorem KnownBy.declared (known : KnownBy h a) : ∃ t, Declares h t ∧ Reads t a := by
  obtain ⟨t, first, read⟩ := known
  exact ⟨t, mem_addresses_iff.mp (List.mem_of_head? (Host.firstAddress?_eq_some_iff.mpr first)), read⟩

/-! ## What the hosts settle on -/

/-- What the hosts settle on is known to all that are marked. -/
theorem known_of_marked (chosen : fromHosts hosts = .ok a) : ∀ h ∈ hosts, h.Marked → KnownBy h a := by
  rcases fromHosts_eq_ok_iff.mp chosen with ⟨-, known⟩ | ⟨h, rfl, unmarked, -⟩
  · exact known
  · intro h' mem marked
    rw [List.mem_singleton.mp mem] at marked
    exact absurd marked unmarked

/-- It is known to some host, marked or not. -/
theorem exists_known (chosen : fromHosts hosts = .ok a) : ∃ h ∈ hosts, KnownBy h a := by
  rcases fromHosts_eq_ok_iff.mp chosen with ⟨⟨h, mem, marked⟩, known⟩ | ⟨h, rfl, -, known⟩
  · exact ⟨h, mem, known h mem marked⟩
  · exact ⟨h, List.mem_singleton_self h, known⟩

/-- Pinned, it is chosen again. -/
theorem fromPin_of_fromHosts (all : AllRead hosts) (chosen : fromHosts hosts = .ok a) (reads : Reads pin a) :
    fromPin pin hosts = .ok a := by
  obtain ⟨h, mem, known⟩ := exists_known chosen
  obtain ⟨t, declares, read⟩ := known.declared
  exact fromPin_eq_ok_iff.mpr ⟨reads, known_of_marked chosen, .inr ⟨all, h, mem, t, declares, read⟩⟩

/-- Where a host is marked, pinning an address is choosing the one that the hosts settle on, or nothing. -/
theorem fromPin_eq_ok_iff_of_marked (marked : ∃ h ∈ hosts, h.Marked) :
    fromPin pin hosts = .ok a ↔ Reads pin a ∧ AllRead hosts ∧ fromHosts hosts = .ok a := by
  constructor
  · intro chosen
    obtain ⟨reads, known, none | ⟨all, -⟩⟩ := fromPin_eq_ok_iff.mp chosen
    · obtain ⟨h, mem, -⟩ := marked
      rw [none] at mem
      cases mem
    · exact ⟨reads, all, fromHosts_eq_ok_iff.mpr (.inl ⟨marked, known⟩)⟩
  · intro h
    obtain ⟨reads, all, chosen⟩ := h
    exact fromPin_of_fromHosts all chosen reads

/-! ## With the configuration -/

theorem choose_of_unpinned (unpinned : Unpinned config) : choose config hosts = fromHosts hosts := by
  rw [choose, pin?_eq_none_iff.mpr unpinned]

theorem choose_pinning (filled : pin ≠ "") : choose (config.pinning pin) hosts = fromPin pin hosts := by
  have given : (config.pinning pin).pin? = some pin := pin?_eq_some_iff.mpr ⟨rfl, filled⟩
  rw [choose, given]

/-- No address is read from a text that says nothing. -/
theorem Reads.ne_empty (reads : Reads pin a) : pin ≠ "" := by
  rintro rfl
  rw [Reads, show Address.parseTrimmed? "" = none by decide] at reads
  cases reads

/-- An address that was chosen was read, so it is read from its own text. -/
theorem reads_text_of_fromHosts (chosen : fromHosts hosts = .ok a) : Reads a.text a := by
  obtain ⟨h, -, t, -, read⟩ := exists_known chosen
  exact Address.parseTrimmed?_text read

end

/-- The choice with a pin agrees with the choice without one. What is chosen without a pin is chosen as well when it is
pinned, in its own text or in any other spelling, if all that the hosts declare are addresses; and where a host is marked,
a pin leads to an address only if it is a spelling of the one that is chosen without it. -/
theorem pin_agrees (config : AgentConfig) (hosts : List Host) (unpinned : Unpinned config) :
    (AllRead hosts → ∀ a, choose config hosts = .ok a →
      choose (config.pinning a.text) hosts = .ok a ∧
        ∀ pin, a.Spells pin → choose (config.pinning pin) hosts = .ok a) ∧
    ((∃ h ∈ hosts, h.Marked) → ∀ pin, pin ≠ "" → ∀ a,
      choose (config.pinning pin) hosts = .ok a ↔
        a.Spells pin ∧ AllRead hosts ∧ choose config hosts = .ok a) := by
  rw [choose_of_unpinned unpinned]
  constructor
  · intro all a chosen
    have pinned : ∀ pin, Reads pin a → choose (config.pinning pin) hosts = .ok a := by
      intro pin reads
      rw [choose_pinning reads.ne_empty]
      exact fromPin_of_fromHosts all chosen reads
    exact ⟨pinned a.text (reads_text_of_fromHosts chosen),
      fun pin spells => pinned pin (Address.parseTrimmed?_eq_some_iff.mpr spells)⟩
  · intro marked pin filled a
    rw [choose_pinning filled, fromPin_eq_ok_iff_of_marked marked, Reads, Address.parseTrimmed?_eq_some_iff]

/-- A host that is marked and has one address. -/
def markedAt (name ip : String) : Host :=
  let family : AddressFamily := ⟨none, some [⟨ip, none, []⟩], []⟩
  ⟨"", "", ⟨name, none, [(Host.rendezvousLabel, "True")]⟩, ⟨⟨some [⟨none, none, none, some family, []⟩], []⟩⟩⟩

/-- Two marked hosts spell their address differently, and the pin spells it in a third way. -/
theorem pin_agrees_spellings :
    let hosts := [markedAt "a" "fe80:0::0001%eth0", markedAt "b" "FE80::0.0.0.1%eth0"]
    Unpinned .empty ∧ AllRead hosts ∧ (∃ h ∈ hosts, h.Marked) ∧
      ∃ a, a.text = "fe80::1%eth0" ∧ choose .empty hosts = .ok a ∧
        choose (AgentConfig.empty.pinning " fe80::0:1%eth0\t") hosts = .ok a ∧
        a.Spells " fe80::0:1%eth0\t" := by
  intro hosts
  have unpinned : Unpinned .empty := fun pin given => by cases given
  have all : AllRead hosts := allRead_iff.mpr (by decide +kernel)
  have marked : ∃ h ∈ hosts, h.Marked := ⟨_, List.mem_cons_self, "True", rfl, by decide +kernel⟩
  have pinned : (choose (AgentConfig.empty.pinning " fe80::0:1%eth0\t") hosts).map Address.text = .ok "fe80::1%eth0" := by
    decide +kernel
  obtain ⟨a, chosen, text⟩ := map_eq_ok_iff.mp pinned
  obtain ⟨kept, repeats⟩ := pin_agrees .empty hosts unpinned
  obtain ⟨spells, -, without⟩ := (repeats marked _ (by decide) a).mp chosen
  exact ⟨unpinned, all, marked, a, text, without, (kept all a without).2 _ spells, spells⟩

end RendezvousHost

end InstallWatch
