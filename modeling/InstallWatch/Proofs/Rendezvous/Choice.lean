import Mathlib
import InstallWatch.Proofs.Results
import InstallWatch.RendezvousHost

/-!
Which address is chosen, without the order in which the inputs are looked at. A pinned address has to be the one
that every marked host is known by and one of those that are declared, all of which have to be addresses; without a
pin the marked hosts have to be known by one address, or there has to be one host only. A host is known by the first
address of its IPv4 families, or else of its IPv6 families, in the order of the interfaces. Whatever the loops meet
first, the outcome is this address or none, and only missing inputs are reported as missing.
-/

namespace InstallWatch

/-! ## What a host says of itself -/

namespace Host

/-- The families of all interfaces: IPv4 before IPv6, each in the order of the interfaces. -/
def families (h : Host) : List (Option AddressFamily) :=
  let interfaces := h.spec.config.interfaces.getD []
  interfaces.map Interface.ipv4 ++ interfaces.map Interface.ipv6

/-- The family is switched on, and this is the first of its texts that is not empty. -/
def Opens (family : Option AddressFamily) (t : String) : Prop :=
  ∃ f before e after, family = some f ∧ f.enabled ≠ some false ∧ f.address.getD [] = before ++ e :: after ∧
    e.ip = t ∧ t ≠ "" ∧ ∀ e ∈ before, e.ip = ""

/-- The family has no text that is not empty, unless it is switched off. -/
def Silent (family : Option AddressFamily) : Prop :=
  ∀ f, family = some f → f.enabled ≠ some false → ∀ e ∈ f.address.getD [], e.ip = ""

/-- The first text that the families of the host declare. -/
def First (h : Host) (t : String) : Prop :=
  ∃ before family after, h.families = before ++ family :: after ∧ Opens family t ∧ ∀ f ∈ before, Silent f

/-- The label says, in either case, that the host is the rendezvous host. -/
def Marked (h : Host) : Prop :=
  ∃ v, h.metadata.labels.lookup rendezvousLabel = some v ∧ Text.lowered v = "true"

theorem isMarked_iff {h : Host} : h.isMarked = true ↔ h.Marked := by
  simp [isMarked, Marked, Option.any_eq_true]

/-- The texts of a family that may be missing. -/
def texts (family : Option AddressFamily) : List String := (family.map AddressFamily.addresses).getD []

theorem addresses_eq_flatMap (h : Host) : h.addresses = h.families.flatMap texts := by
  rw [families, List.flatMap_append, List.flatMap_map, List.flatMap_map]
  rfl

theorem head?_addresses (f : AddressFamily) : f.addresses.head? =
    if f.enabled = some false then none else ((f.address.getD []).find? fun e => e.ip ≠ "").map (·.ip) := by
  unfold AddressFamily.addresses
  split
  · rfl
  · rw [List.head?_filter, List.find?_map]
    rfl

theorem head?_texts_eq_some_iff {family : Option AddressFamily} {t : String} :
    (texts family).head? = some t ↔ Opens family t := by
  cases family with
  | none => simp [texts, Opens]
  | some f =>
    rw [texts, Option.map_some, Option.getD_some, head?_addresses]
    split
    · rename_i off
      simp [Opens, off]
    · rename_i on
      constructor
      · intro first
        obtain ⟨e, found, rfl⟩ := Option.map_eq_some_iff.mp first
        obtain ⟨filled, before, after, split, empty⟩ := List.find?_eq_some_iff_append.mp found
        exact ⟨f, before, e, after, rfl, on, split, rfl, by simpa using filled, by simpa using empty⟩
      · intro opens
        obtain ⟨f, before, e, after, same, -, split, rfl, filled, empty⟩ := opens
        cases same
        refine Option.map_eq_some_iff.mpr ⟨e, ?_, rfl⟩
        exact List.find?_eq_some_iff_append.mpr
          ⟨by simpa using filled, before, after, split, by simpa using empty⟩

theorem head?_texts_eq_none_iff {family : Option AddressFamily} : (texts family).head? = none ↔ Silent family := by
  cases family with
  | none => simp [texts, Silent]
  | some f =>
    rw [texts, Option.map_some, Option.getD_some, head?_addresses]
    split
    · rename_i off
      simp [Silent, off]
    · rename_i on
      simp [Silent, on, List.find?_eq_none]

theorem firstAddress?_eq_some_iff {h : Host} {t : String} : h.firstAddress? = some t ↔ h.First t := by
  rw [firstAddress?, addresses_eq_flatMap, List.head?_flatMap, List.findSome?_eq_some_iff]
  simp only [head?_texts_eq_some_iff, head?_texts_eq_none_iff]
  rfl

end Host

namespace RendezvousHost
open InstallWatch.Results

/-- A text that stands for an address, blanks around it ignored. -/
def Reads (written : String) (a : Address) : Prop := Address.parseTrimmed? written = some a

/-- The host has an address, and the first one stands for this. -/
def KnownBy (h : Host) (a : Address) : Prop := ∃ t, h.First t ∧ Reads t a

/-- A text among those of the families of an interface that are not switched off. -/
def Declares (h : Host) (written : String) : Prop :=
  written ≠ "" ∧ ∃ i ∈ h.spec.config.interfaces.getD [], ∃ f, (i.ipv4 = some f ∨ i.ipv6 = some f) ∧
    f.enabled ≠ some false ∧ ∃ e ∈ f.address.getD [], e.ip = written

/-- The configuration pins no address: it says nothing of one, or an empty text. -/
def Unpinned (config : AgentConfig) : Prop := ∀ pin, config.rendezvousIp = some pin → pin = ""

/-- The address that the inputs single out. -/
inductive Designates (config : AgentConfig) (hosts : List Host) (a : Address) : Prop where
  | pinned (pin : String) (given : config.rendezvousIp = some pin) (filled : pin ≠ "") (reads : Reads pin a)
      (marked : ∀ h ∈ hosts, h.Marked → KnownBy h a)
      (declared : hosts = [] ∨ (∀ h ∈ hosts, ∀ t, Declares h t → ∃ b, Reads t b) ∧
        ∃ h ∈ hosts, ∃ t, Declares h t ∧ Reads t a)
  | marked (unpinned : Unpinned config) (some : ∃ h ∈ hosts, h.Marked) (known : ∀ h ∈ hosts, h.Marked → KnownBy h a)
  | sole (unpinned : Unpinned config) (h : Host) (only : hosts = [h]) (unmarked : ¬ h.Marked)
      (known : KnownBy h a)

/-! ## Reading addresses -/

theorem readAddress_eq_ok_iff {written : String} {source : Source} {a : Address} :
    readAddress written source = .ok a ↔ Reads written a := by
  unfold readAddress Reads
  cases Address.parseTrimmed? written <;> simp

theorem hostAddress_eq_ok_iff {h : Host} {written : String} {a : Address} :
    hostAddress h written = .ok a ↔ Reads written a := readAddress_eq_ok_iff

theorem firstAddress_eq_ok_iff {h : Host} {a : Address} : firstAddress h = .ok a ↔ KnownBy h a := by
  unfold firstAddress KnownBy
  simp only [← Host.firstAddress?_eq_some_iff]
  cases h.firstAddress? with
  | none => simp
  | some t => simp [hostAddress_eq_ok_iff]

theorem mem_familyAddresses_iff {f : AddressFamily} {t : String} :
    t ∈ f.addresses ↔ t ≠ "" ∧ f.enabled ≠ some false ∧ ∃ e ∈ f.address.getD [], e.ip = t := by
  unfold AddressFamily.addresses
  split
  · simp_all
  · simp_all [and_comm]

/-- The texts of a host are those that its families declare, in whatever order. -/
theorem mem_addresses_iff {h : Host} {t : String} : t ∈ h.addresses ↔ Declares h t := by
  have of_family : ∀ family : Option AddressFamily,
      t ∈ (family.map AddressFamily.addresses).getD [] ↔ ∃ f, family = some f ∧ t ∈ f.addresses := by
    intro family
    cases family <;> simp
  simp only [Host.addresses, NetworkState.addresses, List.mem_append, List.mem_flatMap, of_family,
    mem_familyAddresses_iff, Declares]
  constructor
  · intro h
    obtain ⟨i, hi, f, hf, ht, he⟩ | ⟨i, hi, f, hf, ht, he⟩ := h
    · exact ⟨ht, i, hi, f, .inl hf, he⟩
    · exact ⟨ht, i, hi, f, .inr hf, he⟩
  · intro h
    obtain ⟨ht, i, hi, f, hf | hf, he⟩ := h
    · exact .inl ⟨i, hi, f, hf, ht, he⟩
    · exact .inr ⟨i, hi, f, hf, ht, he⟩

/-- All hosts' texts are addresses, and this one is among them. -/
theorem pool_contains_iff {hosts : List Host} {a : Address} :
    (∃ as, pool hosts = .ok as ∧ a ∈ as) ↔
      (∀ h ∈ hosts, ∀ t, Declares h t → ∃ b, Reads t b) ∧ ∃ h ∈ hosts, ∃ t, Declares h t ∧ Reads t a := by
  have texts : ∀ h t, (h, t) ∈ (hosts.flatMap fun h => h.addresses.map (h, ·)) ↔ h ∈ hosts ∧ Declares h t := by
    intro h t
    simp [← mem_addresses_iff]
  unfold pool
  constructor
  · intro h
    obtain ⟨as, has, ha⟩ := h
    obtain ⟨⟨h, t⟩, ht, hr⟩ := (mem_of_mapM_eq_ok has a).mp ha
    obtain ⟨hh, hd⟩ := (texts h t).mp ht
    refine ⟨fun h hh t hd => ?_, h, hh, t, hd, hostAddress_eq_ok_iff.mp hr⟩
    obtain ⟨b, hb⟩ := mapM_succeeds_iff.mp ⟨as, has⟩ (h, t) ((texts h t).mpr ⟨hh, hd⟩)
    exact ⟨b, hostAddress_eq_ok_iff.mp hb⟩
  · intro h
    obtain ⟨all, h, hh, t, hd, hr⟩ := h
    have each : ∀ p ∈ hosts.flatMap (fun h => h.addresses.map (h, ·)), ∃ b, hostAddress p.1 p.2 = .ok b := by
      rintro ⟨h, t⟩ hp
      obtain ⟨hh, hd⟩ := (texts h t).mp hp
      obtain ⟨b, hb⟩ := all h hh t hd
      exact ⟨b, hostAddress_eq_ok_iff.mpr hb⟩
    obtain ⟨as, has⟩ := mapM_succeeds_iff.mpr each
    exact ⟨as, has, (mem_of_mapM_eq_ok has a).mpr
      ⟨(h, t), (texts h t).mpr ⟨hh, hd⟩, hostAddress_eq_ok_iff.mpr hr⟩⟩

/-! ## The three ways to choose -/

theorem agree_eq_ok_iff {pin : Address} {hosts : List Host} :
    agree pin hosts = .ok () ↔ ∀ h ∈ hosts, KnownBy h pin := by
  induction hosts with
  | nil => simp [agree]
  | cons h hosts ih =>
    rw [agree, bind_eq_ok_iff, List.forall_mem_cons, ← firstAddress_eq_ok_iff, ← ih]
    constructor
    · intro h
      obtain ⟨a, ha, hr⟩ := h
      by_cases hp : a = pin
      · subst hp
        exact ⟨ha, by simpa using hr⟩
      · simp [hp, bind, Except.bind] at hr
    · intro h
      obtain ⟨ha, hr⟩ := h
      exact ⟨pin, ha, by simpa using hr⟩

/-- Addresses are one address if and only if it remains of them when copies go. -/
theorem eraseDups_eq_singleton_iff {as : List Address} {a : Address} :
    as.eraseDups = [a] ↔ as ≠ [] ∧ ∀ b ∈ as, b = a := by
  constructor
  · intro h
    have hm : ∀ b, b ∈ as ↔ b = a := by
      intro b
      rw [← List.mem_eraseDups, h, List.mem_singleton]
    exact ⟨List.ne_nil_of_mem ((hm a).mpr rfl), fun b hb => (hm b).mp hb⟩
  · intro h
    obtain ⟨hne, hall⟩ := h
    cases as with
    | nil => exact absurd rfl hne
    | cons b bs =>
      have hb : b = a := hall b List.mem_cons_self
      have hbs : bs.filter (fun c => !c == b) = [] := by
        rw [List.filter_eq_nil_iff]
        intro c hc
        simp [hall c (List.mem_cons_of_mem b hc), hb]
      rw [List.eraseDups_cons, hbs, hb, List.eraseDups_nil]

theorem fromMarked_eq_ok_iff {marked : List Host} {a : Address} :
    fromMarked marked = .ok a ↔ marked ≠ [] ∧ ∀ h ∈ marked, KnownBy h a := by
  unfold fromMarked
  rw [bind_eq_ok_iff]
  constructor
  · intro h
    obtain ⟨as, has, h⟩ := h
    split at h
    · rename_i b single
      cases h
      obtain ⟨hne, hall⟩ := eraseDups_eq_singleton_iff.mp single
      refine ⟨fun hm => hne ?_, fun h hh => ?_⟩
      · subst hm
        cases has
        rfl
      · obtain ⟨c, hc⟩ := mapM_succeeds_iff.mp ⟨as, has⟩ h hh
        have same : c = a := hall c ((mem_of_mapM_eq_ok has c).mpr ⟨h, hh, hc⟩)
        exact firstAddress_eq_ok_iff.mp (same ▸ hc)
    · cases h
  · intro h
    obtain ⟨hne, hall⟩ := h
    obtain ⟨as, has⟩ := mapM_succeeds_iff.mpr fun h hh => ⟨a, firstAddress_eq_ok_iff.mpr (hall h hh)⟩
    have hmem := mem_of_mapM_eq_ok has
    have single : as.eraseDups = [a] := by
      refine eraseDups_eq_singleton_iff.mpr ⟨?_, fun b hb => ?_⟩
      · obtain ⟨h, hh⟩ := List.exists_mem_of_ne_nil marked hne
        exact List.ne_nil_of_mem ((hmem a).mpr ⟨h, hh, firstAddress_eq_ok_iff.mpr (hall h hh)⟩)
      · obtain ⟨h, hh, hb⟩ := (hmem b).mp hb
        rw [firstAddress_eq_ok_iff.mpr (hall h hh)] at hb
        exact (Except.ok.inj hb).symm
    refine ⟨as, has, ?_⟩
    rw [single]
    rfl

theorem fromPin_eq_ok_iff {pin : String} {hosts : List Host} {a : Address} :
    fromPin pin hosts = .ok a ↔ Reads pin a ∧ (∀ h ∈ hosts, h.Marked → KnownBy h a) ∧
      (hosts = [] ∨ (∀ h ∈ hosts, ∀ t, Declares h t → ∃ b, Reads t b) ∧
        ∃ h ∈ hosts, ∃ t, Declares h t ∧ Reads t a) := by
  -- what is left to do once the pin is read and agreed on
  have last : ∀ b : Address, (do
      if hosts.isEmpty then return b
      if (← pool hosts).contains b then return b
      .error (.undeclared b) : Except Fault Address) = .ok a ↔
        b = a ∧ (hosts = [] ∨ ∃ as, pool hosts = .ok as ∧ a ∈ as) := by
    intro b
    cases hosts with
    | nil => simp [pure, Except.pure]
    | cons h hs =>
      simp only [List.isEmpty_cons, Bool.false_eq_true, ↓reduceIte, bind_eq_ok_iff, reduceCtorEq, false_or]
      constructor
      · intro h
        obtain ⟨as, has, hr⟩ := h
        split at hr
        · rename_i hb
          cases hr
          exact ⟨rfl, as, has, List.contains_iff_mem.mp hb⟩
        · cases hr
      · intro h
        obtain ⟨rfl, as, has, ha⟩ := h
        exact ⟨as, has, by rw [if_pos (List.contains_iff_mem.mpr ha)]; rfl⟩
  have agreed : ∀ b, agree b (hosts.filter (·.isMarked)) = .ok () ↔
      ∀ h ∈ hosts, h.Marked → KnownBy h b := by
    intro b
    simp [agree_eq_ok_iff, Host.isMarked_iff]
  unfold fromPin
  rw [bind_eq_ok_iff]
  constructor
  · intro h
    obtain ⟨b, hb, h⟩ := h
    obtain ⟨⟨⟩, hagree, h⟩ := bind_eq_ok_iff.mp h
    obtain ⟨rfl, hlast⟩ := (last b).mp h
    exact ⟨readAddress_eq_ok_iff.mp hb, (agreed b).mp hagree, hlast.imp_right pool_contains_iff.mp⟩
  · intro h
    obtain ⟨hb, hagree, hlast⟩ := h
    exact ⟨a, readAddress_eq_ok_iff.mpr hb, bind_eq_ok_iff.mpr
      ⟨(), (agreed a).mpr hagree, (last a).mpr ⟨rfl, hlast.imp_right pool_contains_iff.mpr⟩⟩⟩

/-- Where some host is marked, the other hosts do not matter. -/
theorem fromHosts_of_marked {hosts : List Host} (h : hosts.filter (·.isMarked) ≠ []) :
    fromHosts hosts = fromMarked (hosts.filter (·.isMarked)) := by
  unfold fromHosts
  split
  · exact absurd ‹_› h
  · exact absurd ‹_› h
  · exact absurd ‹_› h
  · rfl

theorem fromHosts_eq_ok_iff {hosts : List Host} {a : Address} :
    fromHosts hosts = .ok a ↔
      ((∃ h ∈ hosts, h.Marked) ∧ ∀ h ∈ hosts, h.Marked → KnownBy h a) ∨
        ∃ h, hosts = [h] ∧ ¬ h.Marked ∧ KnownBy h a := by
  simp only [← Host.isMarked_iff]
  have some_marked : (∃ h ∈ hosts, h.isMarked = true) ↔ hosts.filter (·.isMarked) ≠ [] := by
    simp
  have all_marked : (∀ h ∈ hosts, h.isMarked = true → KnownBy h a) ↔
      ∀ h ∈ hosts.filter (·.isMarked), KnownBy h a := by
    simp
  rw [some_marked, all_marked]
  by_cases hm : hosts.filter (·.isMarked) = []
  · match hosts, hm with
    | [], _ => simp [fromHosts]
    | [h], hm =>
      have hh : h.isMarked = false := by simpa using hm
      simp [fromHosts, hh, firstAddress_eq_ok_iff]
    | h :: h' :: hs, hm =>
      simp only [fromHosts, hm]
      simp
  · rw [fromHosts_of_marked hm, fromMarked_eq_ok_iff]
    refine ⟨.inl, fun h => h.resolve_right ?_⟩
    rintro ⟨h, rfl, hh, _⟩
    simp [hh] at hm

theorem pin?_eq_some_iff {config : AgentConfig} {pin : String} :
    config.pin? = some pin ↔ config.rendezvousIp = some pin ∧ pin ≠ "" := by
  simp [AgentConfig.pin?, Option.filter_eq_some_iff]

theorem pin?_eq_none_iff {config : AgentConfig} : config.pin? = none ↔ Unpinned config := by
  simp [AgentConfig.pin?, Option.filter_eq_none_iff, Unpinned]

theorem choose_eq_ok_iff {config : AgentConfig} {hosts : List Host} {a : Address} :
    choose config hosts = .ok a ↔ Designates config hosts a := by
  unfold choose
  cases hp : config.pin? with
  | some pin =>
    obtain ⟨given, filled⟩ := pin?_eq_some_iff.mp hp
    have pinned : ¬ Unpinned config := fun h => filled (h pin given)
    rw [fromPin_eq_ok_iff]
    constructor
    · intro h
      obtain ⟨reads, marked, declared⟩ := h
      exact .pinned pin given filled reads marked declared
    · intro h
      obtain ⟨pin', given', -, reads, marked, declared⟩ | ⟨unpinned, -, -⟩ | ⟨unpinned, -⟩ := h
      · rw [given] at given'
        cases given'
        exact ⟨reads, marked, declared⟩
      · exact absurd unpinned pinned
      · exact absurd unpinned pinned
  | none =>
    have unpinned := pin?_eq_none_iff.mp hp
    rw [fromHosts_eq_ok_iff]
    constructor
    · intro h
      obtain ⟨some, known⟩ | ⟨h, only, unmarked, known⟩ := h
      · exact .marked unpinned some known
      · exact .sole unpinned h only unmarked known
    · intro h
      obtain ⟨pin, given, filled, -⟩ | ⟨-, some, known⟩ | ⟨-, h, only, unmarked, known⟩ := h
      · exact absurd (unpinned pin given) filled
      · exact .inl ⟨some, known⟩
      · exact .inr ⟨h, only, unmarked, known⟩

/-! ## What is reported as missing -/

/-- A result that does not complain of missing inputs. -/
def NotMissing {α : Type} (r : Except Fault α) : Prop := ∀ f, r = .error f → f.isMissing = false

theorem NotMissing.bind {α β : Type} {r : Except Fault α} {next : α → Except Fault β} (hr : NotMissing r)
    (hn : ∀ a, NotMissing (next a)) : NotMissing (r >>= next) := by
  intro f h
  rcases bind_eq_error_iff.mp h with h | ⟨a, _, h⟩
  · exact hr f h
  · exact hn a f h

theorem NotMissing.mapM {α β : Type} {step : α → Except Fault β} (h : ∀ a, NotMissing (step a)) (as : List α) :
    NotMissing (as.mapM step) := by
  intro f hf
  obtain ⟨a, _, ha⟩ := exists_of_mapM_eq_error hf
  exact h a f ha

theorem NotMissing.error {α : Type} {f : Fault} (h : f.isMissing = false) :
    NotMissing (.error f : Except Fault α) := by
  intro g hg
  cases hg
  exact h

theorem NotMissing.ok {α : Type} (a : α) : NotMissing (.ok a) := nofun

theorem readAddress_notMissing (written : String) (source : Source) : NotMissing (readAddress written source) := by
  unfold readAddress
  split
  · exact .ok _
  · exact .error rfl

theorem firstAddress_notMissing (h : Host) : NotMissing (firstAddress h) := by
  unfold firstAddress
  split
  · exact .error rfl
  · exact readAddress_notMissing _ _

theorem agree_notMissing (pin : Address) (hosts : List Host) : NotMissing (agree pin hosts) := by
  induction hosts with
  | nil => exact .ok ()
  | cons h hosts ih =>
    refine (firstAddress_notMissing h).bind fun a => ?_
    split
    · exact NotMissing.bind (.error rfl) fun _ => ih
    · exact ih

theorem fromPin_notMissing (pin : String) (hosts : List Host) : NotMissing (fromPin pin hosts) := by
  refine (readAddress_notMissing _ _).bind fun b => (agree_notMissing _ _).bind fun _ => ?_
  split
  · exact .ok b
  · refine NotMissing.bind (.mapM (fun p => readAddress_notMissing _ _) _) fun as => ?_
    split
    · exact .ok b
    · exact .error rfl

theorem fromMarked_notMissing (marked : List Host) : NotMissing (fromMarked marked) := by
  refine NotMissing.bind (.mapM firstAddress_notMissing marked) fun as => ?_
  split
  · exact .ok _
  · exact .error rfl

/-- Only where there is neither a pin nor a host is anything missing. -/
theorem choose_missing_iff {config : AgentConfig} {hosts : List Host} :
    (∃ f, choose config hosts = .error f ∧ f.isMissing = true) ↔ Unpinned config ∧ hosts = [] := by
  rw [← pin?_eq_none_iff]
  constructor
  · intro h
    obtain ⟨f, hf, missing⟩ := h
    unfold choose at hf
    split at hf
    · rw [fromPin_notMissing _ _ f hf] at missing
      cases missing
    · rename_i hp
      refine ⟨hp, ?_⟩
      unfold fromHosts at hf
      split at hf
      · rfl
      · rw [firstAddress_notMissing _ f hf] at missing
        cases missing
      · cases hf
        cases missing
      · rw [fromMarked_notMissing _ f hf] at missing
        cases missing
  · intro h
    obtain ⟨hp, rfl⟩ := h
    exact ⟨.nothingDeclared, by simp [choose, hp, fromHosts], rfl⟩

/-! ## The choice from what a folder may lack -/

/-- The hosts that manifests declare, which may be missing. -/
def declared (manifests : Option HostList) : List Host := (manifests.map HostList.hosts).getD []

/-- Both inputs are missing, or neither pins an address or declares a host. -/
def Missing (config : Option AgentConfig) (manifests : Option HostList) : Prop :=
  (config = none ∧ manifests = none) ∨ (Unpinned (config.getD .empty) ∧ declared manifests = [])

/-- The choice is made from what is there, an empty configuration and no hosts standing for what is not. -/
theorem find_of_given {config : Option AgentConfig} {manifests : Option HostList}
    (h : config.isSome = true ∨ manifests.isSome = true) :
    find config manifests = choose (config.getD .empty) (declared manifests) := by
  match config, manifests, h with
  | some c, some m, _ => rfl
  | some c, none, _ => rfl
  | none, some m, _ => rfl

/-- The text of an address comes out if and only if the inputs single that address out; otherwise the fault tells
what is missing exactly where something is. -/
theorem find_outcome (config : Option AgentConfig) (manifests : Option HostList) :
    (∀ t, (find config manifests).map Address.text = .ok t ↔
      (config.isSome = true ∨ manifests.isSome = true) ∧
        ∃ a, a.text = t ∧ Designates (config.getD .empty) (declared manifests) a) ∧
    ((∃ f, find config manifests = .error f ∧ f.isMissing = true) ↔ Missing config manifests) ∧
    ((∃ f, find config manifests = .error f ∧ f.isMissing = false) ↔
      ¬ Missing config manifests ∧ ∀ a, ¬ Designates (config.getD .empty) (declared manifests) a) := by
  by_cases given : config.isSome = true ∨ manifests.isSome = true
  · have missing : Missing config manifests ↔
        ∃ f, choose (config.getD .empty) (declared manifests) = .error f ∧ f.isMissing = true := by
      rw [choose_missing_iff]
      refine ⟨fun h => h.resolve_left ?_, .inr⟩
      rintro ⟨rfl, rfl⟩
      simp at given
    rw [find_of_given given, missing]
    cases hc : choose (config.getD .empty) (declared manifests) with
    | ok a => simp [given, ← choose_eq_ok_iff, hc, Except.map]
    | error f => simp [← choose_eq_ok_iff, hc, Except.map]
  · obtain ⟨rfl, rfl⟩ : config = none ∧ manifests = none := by simpa using given
    have missing : Missing none none := .inl ⟨rfl, rfl⟩
    simp [find, inputs, bind, Except.bind, Except.map, Fault.isMissing, missing]

end RendezvousHost

end InstallWatch
