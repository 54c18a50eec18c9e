import Mathlib
import InstallWatch.Asset.Kind
import InstallWatch.Proofs.Schema.Restoring
import InstallWatch.Service.Settings

/-!
Every record survives being written out and read again. It is written with all its fields, defaults included, each under
the last of its names, and with the entries that it keeps besides. The proof goes from the innermost records out: a record
is restored if its fields are, and a field is restored from whatever name it was given under, as long as it was given under
one. With two names given, a record that keeps other entries would keep one of them as such, and read it back as the field.
-/

namespace InstallWatch
open Schema

/-! ## The records -/

/-- The kinds of records. -/
inductive RecordKind where
  | metadata
  | agentConfig
  | addressEntry
  | addressFamily
  | interface
  | networkState
  | hostSpec
  | host
  | hostList
  | installConfig
  | settings
deriving DecidableEq

namespace RecordKind

abbrev Content : RecordKind → Type
  | metadata => Metadata
  | agentConfig => AgentConfig
  | addressEntry => AddressEntry
  | addressFamily => AddressFamily
  | interface => Interface
  | networkState => NetworkState
  | hostSpec => HostSpec
  | host => Host
  | hostList => HostList
  | installConfig => InstallConfig
  | settings => Service.Settings

def check : (k : RecordKind) → Data → Checked k.Content
  | metadata => Metadata.check
  | agentConfig => AgentConfig.check
  | addressEntry => AddressEntry.check
  | addressFamily => AddressFamily.check
  | interface => Interface.check
  | networkState => NetworkState.check
  | hostSpec => HostSpec.check
  | host => Host.check
  | hostList => HostList.check
  | installConfig => InstallConfig.check
  | settings => Service.Settings.check

def write : (k : RecordKind) → k.Content → Data
  | metadata => Metadata.write
  | agentConfig => AgentConfig.write
  | addressEntry => AddressEntry.write
  | addressFamily => AddressFamily.write
  | interface => Interface.write
  | networkState => NetworkState.write
  | hostSpec => HostSpec.write
  | host => Host.write
  | hostList => HostList.write
  | installConfig => InstallConfig.write
  | settings => Service.Settings.write

/-- The fields of a record, in the order in which they are written, each with the names it may be given under. Under the last
of them it is written. -/
def fields : RecordKind → List (List String)
  | metadata => [["name"], ["namespace"], ["labels"]]
  | agentConfig => [["apiVersion", "api_version"], ["kind"], ["metadata"], ["rendezvousIP", "rendezvous_ip"]]
  | addressEntry => [["ip"], ["prefix-length", "prefix_length"]]
  | addressFamily => [["enabled"], ["address"]]
  | interface => [["name"], ["type"], ["ipv4"], ["ipv6"]]
  | networkState => [["interfaces"]]
  | hostSpec => [["config"]]
  | host => [["apiVersion", "api_version"], ["kind"], ["metadata"], ["spec"]]
  | hostList => [["nmstate_configs"]]
  | installConfig => [["apiVersion", "api_version"], ["metadata"], ["baseDomain", "base_domain"], ["sshKey", "ssh_key"]]
  | settings => [["port"], ["base_path"], ["timeout_seconds"], ["poll_interval_seconds"]]

/-- The fields that hold records themselves, one or a list of them. -/
def inside : RecordKind → List (List String × RecordKind)
  | agentConfig | installConfig => [(["metadata"], metadata)]
  | addressFamily => [(["address"], addressEntry)]
  | interface => [(["ipv4"], addressFamily), (["ipv6"], addressFamily)]
  | networkState => [(["interfaces"], interface)]
  | hostSpec => [(["config"], networkState)]
  | host => [(["metadata"], metadata), (["spec"], hostSpec)]
  | hostList => [(["nmstate_configs"], host)]
  | metadata | addressEntry | settings => []

/-- Whether a record keeps the entries that belong to no field. -/
def keeps : RecordKind → Bool
  | addressEntry | addressFamily | interface | networkState => true
  | _ => false

end RecordKind

/-- In data for a record no field is given under two names, and neither is one in the data for the records inside. -/
inductive GivenOnce : RecordKind → Data → Prop where
  | intro {k : RecordKind} {d : Data} (here : ∀ es, d = .map es → GivenByOne k.fields es)
      (inside : ∀ es, d = .map es → ∀ field ∈ k.inside, ∀ given, given? field.1 es = some given →
        ∀ x ∈ given.2.items, GivenOnce field.2 x) : GivenOnce k d

/-- The data for a record written out: each field under its last name, whether it was given or not, and behind them, if the
record keeps them, the entries that belong to no field, as they were. -/
def Dumps (k : RecordKind) (d dump : Data) : Prop :=
  ∃ (es : Entries) (named : List (String × Data)), d = .map es ∧ named.map (·.1) = lastNames k.fields ∧
    dump = .map (named.map entryOf ++ if k.keeps then es.filter (fun e => !isName k.fields e.1) else [])

theorem givenOnce_map_iff {k : RecordKind} {es : Entries} :
    GivenOnce k (.map es) ↔ GivenByOne k.fields es ∧
      ∀ field ∈ k.inside, ∀ given, given? field.1 es = some given → ∀ x ∈ given.2.items, GivenOnce field.2 x := by
  constructor
  · rintro ⟨here, inside⟩
    exact ⟨here es rfl, inside es rfl⟩
  · rintro ⟨here, inside⟩
    constructor
    · rintro _ ⟨⟩
      exact here
    · rintro _ ⟨⟩
      exact inside

/-- What restores proper data that give every field once, restores what is given under a field that holds records. -/
theorem GivenOnce.restores_inside {k inner : RecordKind} {es : Entries} (once : GivenOnce k (.map es))
    (proper : (Data.map es).isProper = true) {α : Type} {check : Data → Checked α} {write : α → Data}
    (restores : ∀ {x}, x.isProper = true → GivenOnce inner x → Restores check write x) {names : List String}
    (mem : (names, inner) ∈ k.inside) {name : String} {d : Data} (given : given? names es = some (name, d)) :
    ∀ x ∈ d.items, Restores check write x := by
  intro x hx
  have value := Data.isProper_value_of_mem (Data.isProper_map_iff.mp proper).2 (mem_of_given? given).2
  have inside := (givenOnce_map_iff.mp once).2 _ mem _ given x hx
  exact restores (Data.isProper_of_mem_items value hx) inside

/-! ## What checks accept -/

section
open Checked

theorem Metadata.check_eq_accepted_iff {d : Data} {m : Metadata} :
    check d = .accepted m ↔ ∃ es, d = .map es ∧ field es ["name"] empty.name text = .accepted m.name ∧
      field es ["namespace"] empty.space (optional text) = .accepted m.space ∧
      field es ["labels"] empty.labels table = .accepted m.labels := by
  obtain ⟨name, space, labels⟩ := m
  simp [check, record_eq_accepted_iff, seq_eq_accepted_iff, functor_map_eq_accepted_iff]

theorem AgentConfig.check_eq_accepted_iff {d : Data} {c : AgentConfig} :
    check d = .accepted c ↔ ∃ es, d = .map es ∧
      field es ["apiVersion", "api_version"] empty.apiVersion text = .accepted c.apiVersion ∧
      field es ["kind"] empty.kind text = .accepted c.kind ∧
      field es ["metadata"] empty.metadata Metadata.check = .accepted c.metadata ∧
      field es ["rendezvousIP", "rendezvous_ip"] empty.rendezvousIp (optional text) = .accepted c.rendezvousIp := by
  obtain ⟨apiVersion, kind, metadata, rendezvousIp⟩ := c
  simp [check, record_eq_accepted_iff, seq_eq_accepted_iff, functor_map_eq_accepted_iff, and_assoc]

theorem InstallConfig.check_eq_accepted_iff {d : Data} {c : InstallConfig} :
    check d = .accepted c ↔ ∃ es, d = .map es ∧
      field es ["apiVersion", "api_version"] "v1" text = .accepted c.apiVersion ∧
      field es ["metadata"] .empty Metadata.check = .accepted c.metadata ∧
      field es ["baseDomain", "base_domain"] none (optional text) = .accepted c.baseDomain ∧
      field es ["sshKey", "ssh_key"] "" text = .accepted c.sshKey := by
  obtain ⟨apiVersion, metadata, baseDomain, sshKey⟩ := c
  simp [check, record_eq_accepted_iff, seq_eq_accepted_iff, functor_map_eq_accepted_iff, and_assoc]

theorem AddressEntry.check_eq_accepted_iff {d : Data} {e : AddressEntry} :
    check d = .accepted e ↔ ∃ es, d = .map es ∧ es.any hasBrokenKey = false ∧ required es ["ip"] text = .accepted e.ip ∧
      field es ["prefix-length", "prefix_length"] none (optional whole) = .accepted e.prefixLength ∧
      extras [["ip"], ["prefix-length", "prefix_length"]] es = .accepted e.kept := by
  obtain ⟨ip, prefixLength, kept⟩ := e
  simp [check, keepingRecord_eq_accepted_iff, seq_eq_accepted_iff, functor_map_eq_accepted_iff]

theorem AddressFamily.check_eq_accepted_iff {d : Data} {f : AddressFamily} :
    check d = .accepted f ↔ ∃ es, d = .map es ∧ es.any hasBrokenKey = false ∧
      field es ["enabled"] none (optional flag) = .accepted f.enabled ∧
      field es ["address"] none (optional (list AddressEntry.check)) = .accepted f.address ∧
      extras [["enabled"], ["address"]] es = .accepted f.kept := by
  obtain ⟨enabled, address, kept⟩ := f
  simp [check, keepingRecord_eq_accepted_iff, seq_eq_accepted_iff, functor_map_eq_accepted_iff]

theorem AddressFamily.exists_map {d : Data} {f : AddressFamily} (h : check d = .accepted f) : ∃ es, d = .map es := by
  obtain ⟨es, mapping, _⟩ := check_eq_accepted_iff.mp h
  exact ⟨es, mapping⟩

theorem Interface.check_eq_accepted_iff {d : Data} {i : Interface} :
    check d = .accepted i ↔ ∃ es, d = .map es ∧ es.any hasBrokenKey = false ∧
      field es ["name"] none (optional text) = .accepted i.name ∧
      field es ["type"] none (optional text) = .accepted i.type ∧
      field es ["ipv4"] none (optional AddressFamily.check) = .accepted i.ipv4 ∧
      field es ["ipv6"] none (optional AddressFamily.check) = .accepted i.ipv6 ∧
      extras [["name"], ["type"], ["ipv4"], ["ipv6"]] es = .accepted i.kept := by
  obtain ⟨name, type, ipv4, ipv6, kept⟩ := i
  simp [check, keepingRecord_eq_accepted_iff, seq_eq_accepted_iff, functor_map_eq_accepted_iff, and_assoc]

theorem NetworkState.check_eq_accepted_iff {d : Data} {s : NetworkState} :
    check d = .accepted s ↔ ∃ es, d = .map es ∧ es.any hasBrokenKey = false ∧
      field es ["interfaces"] none (optional (list Interface.check)) = .accepted s.interfaces ∧
      extras [["interfaces"]] es = .accepted s.kept := by
  obtain ⟨interfaces, kept⟩ := s
  simp [check, keepingRecord_eq_accepted_iff, seq_eq_accepted_iff, functor_map_eq_accepted_iff]

theorem NetworkState.exists_map {d : Data} {s : NetworkState} (h : check d = .accepted s) : ∃ es, d = .map es := by
  obtain ⟨es, mapping, _⟩ := check_eq_accepted_iff.mp h
  exact ⟨es, mapping⟩

theorem HostSpec.check_eq_accepted_iff {d : Data} {s : HostSpec} :
    check d = .accepted s ↔ ∃ es, d = .map es ∧ field es ["config"] .empty NetworkState.check = .accepted s.config := by
  obtain ⟨config⟩ := s
  simp [check, record_eq_accepted_iff, functor_map_eq_accepted_iff]

theorem HostSpec.exists_map {d : Data} {s : HostSpec} (h : check d = .accepted s) : ∃ es, d = .map es := by
  obtain ⟨es, mapping, _⟩ := check_eq_accepted_iff.mp h
  exact ⟨es, mapping⟩

theorem Host.check_eq_accepted_iff {d : Data} {h : Host} :
    check d = .accepted h ↔ ∃ es, d = .map es ∧
      field es ["apiVersion", "api_version"] "agent-install.openshift.io/v1beta1" text = .accepted h.apiVersion ∧
      field es ["kind"] "NMStateConfig" text = .accepted h.kind ∧
      field es ["metadata"] .empty Metadata.check = .accepted h.metadata ∧
      field es ["spec"] .empty HostSpec.check = .accepted h.spec := by
  obtain ⟨apiVersion, kind, metadata, spec⟩ := h
  simp [check, record_eq_accepted_iff, seq_eq_accepted_iff, functor_map_eq_accepted_iff, and_assoc]

theorem HostList.check_eq_accepted_iff {d : Data} {m : HostList} :
    check d = .accepted m ↔ ∃ es, d = .map es ∧ field es ["nmstate_configs"] [] (list Host.check) = .accepted m.hosts := by
  obtain ⟨hosts⟩ := m
  simp [check, record_eq_accepted_iff, functor_map_eq_accepted_iff]

end

/-! ## Records that keep nothing else -/

theorem Metadata.restores (d : Data) : Restores check write d := by
  intro m read
  obtain ⟨es, rfl, name, space, labels⟩ := check_eq_accepted_iff.mp read
  refine check_eq_accepted_iff.mpr ⟨_, rfl, ?_, ?_, ?_⟩
  · exact field_restores name (fun _ d _ => text_restores d) rfl rfl
  · exact field_restores space (fun _ d _ => optional_text_restores d) rfl rfl
  · exact field_restores labels (fun _ d _ => table_restores d) rfl rfl

theorem AgentConfig.restores (d : Data) : Restores check write d := by
  intro c read
  obtain ⟨es, rfl, apiVersion, kind, metadata, rendezvousIp⟩ := check_eq_accepted_iff.mp read
  refine check_eq_accepted_iff.mpr ⟨_, rfl, ?_, ?_, ?_, ?_⟩
  · exact field_restores apiVersion (fun _ d _ => text_restores d) rfl rfl
  · exact field_restores kind (fun _ d _ => text_restores d) rfl rfl
  · exact field_restores metadata (fun _ d _ => Metadata.restores d) rfl rfl
  · exact field_restores rendezvousIp (fun _ d _ => optional_text_restores d) rfl rfl

theorem InstallConfig.restores (d : Data) : Restores check write d := by
  intro c read
  obtain ⟨es, rfl, apiVersion, metadata, baseDomain, sshKey⟩ := check_eq_accepted_iff.mp read
  refine check_eq_accepted_iff.mpr ⟨_, rfl, ?_, ?_, ?_, ?_⟩
  · exact field_restores apiVersion (fun _ d _ => text_restores d) rfl rfl
  · exact field_restores metadata (fun _ d _ => Metadata.restores d) rfl rfl
  · exact field_restores baseDomain (fun _ d _ => optional_text_restores d) rfl rfl
  · exact field_restores sshKey (fun _ d _ => text_restores d) rfl rfl

/-! ## Network states -/

/-- What the data for a record say once of each field, and proper data keep, can be kept next to its fields. -/
theorem GivenOnce.keepable {k : RecordKind} {es : Entries} {kept : Extras} (once : GivenOnce k (.map es))
    (proper : (Data.map es).isProper = true) (whole : es.any hasBrokenKey = false)
    (h : extras k.fields es = .accepted kept) : Keepable k.fields kept :=
  keepable_of_extras (Data.isProper_map_iff.mp proper).1 whole (givenOnce_map_iff.mp once).1 h

theorem RecordKind.writable (k : RecordKind) : Writable k.fields := by
  cases k <;> constructor <;> decide

theorem AddressEntry.restores {d : Data} (proper : d.isProper = true) (once : GivenOnce .addressEntry d) :
    Restores check write d := by
  intro e read
  obtain ⟨es, rfl, whole, ip, prefixLength, kept⟩ := check_eq_accepted_iff.mp read
  have keepable := once.keepable proper whole kept
  -- The other name of the field comes first when it is read back, so it must not stand among what is kept.
  have hyphened := keepable.entry?_eq_none "prefix-length" (by decide)
  have given : given? ["prefix-length", "prefix_length"]
      ([("ip", Data.text e.ip), ("prefix_length", writtenOption .int e.prefixLength)].map entryOf ++ e.kept.map entryOf) =
        some ("prefix_length", writtenOption .int e.prefixLength) := by
    simp [given?, entryOf, Data.entry?_cons_text, hyphened]
  refine check_eq_accepted_iff.mpr ⟨_, keepable.written_eq (RecordKind.writable _) rfl, ?_, ?_, ?_, ?_⟩
  · exact keepable.written_whole (RecordKind.writable _) rfl
  · exact required_restores ip (fun _ d _ => text_restores d) rfl
  · exact field_restores prefixLength (fun _ d _ => optional_whole_restores d) rfl given
  · refine keepable.extras_written (RecordKind.writable _) rfl ?_
    simp [usedNames, RecordKind.fields, given?, entryOf, Data.entry?_cons_text, hyphened]

theorem AddressFamily.restores {d : Data} (proper : d.isProper = true) (once : GivenOnce .addressFamily d) :
    Restores check write d := by
  intro f read
  obtain ⟨es, rfl, whole, enabled, address, kept⟩ := check_eq_accepted_iff.mp read
  have keepable := once.keepable proper whole kept
  refine check_eq_accepted_iff.mpr ⟨_, keepable.written_eq (RecordKind.writable _) rfl, ?_, ?_, ?_, ?_⟩
  · exact keepable.written_whole (RecordKind.writable _) rfl
  · exact field_restores enabled (fun _ d _ => optional_flag_restores d) rfl rfl
  · exact field_restores address (fun _ _ given => optional_list_restores
      (once.restores_inside proper AddressEntry.restores (by decide) given)) rfl rfl
  · exact keepable.extras_written (RecordKind.writable _) rfl rfl

theorem Interface.restores {d : Data} (proper : d.isProper = true) (once : GivenOnce .interface d) :
    Restores check write d := by
  intro i read
  obtain ⟨es, rfl, whole, name, type, ipv4, ipv6, kept⟩ := check_eq_accepted_iff.mp read
  have keepable := once.keepable proper whole kept
  have family : ∀ names, (names, RecordKind.addressFamily) ∈ RecordKind.interface.inside →
      ∀ name d, given? names es = some (name, d) →
        Restores (optional AddressFamily.check) (writtenOption AddressFamily.write) d := by
    intro names mem name d given
    have inside := once.restores_inside proper AddressFamily.restores mem given
    exact optional_restores (by simp [AddressFamily.write, written])
      (restores_of_items (fun _ => AddressFamily.exists_map) inside)
  refine check_eq_accepted_iff.mpr ⟨_, keepable.written_eq (RecordKind.writable _) rfl, ?_, ?_, ?_, ?_, ?_, ?_⟩
  · exact keepable.written_whole (RecordKind.writable _) rfl
  · exact field_restores name (fun _ d _ => optional_text_restores d) rfl rfl
  · exact field_restores type (fun _ d _ => optional_text_restores d) rfl rfl
  · exact field_restores ipv4 (family _ (by decide)) rfl rfl
  · exact field_restores ipv6 (family _ (by decide)) rfl rfl
  · exact keepable.extras_written (RecordKind.writable _) rfl rfl

theorem NetworkState.restores {d : Data} (proper : d.isProper = true) (once : GivenOnce .networkState d) :
    Restores check write d := by
  intro s read
  obtain ⟨es, rfl, whole, interfaces, kept⟩ := check_eq_accepted_iff.mp read
  have keepable := once.keepable proper whole kept
  refine check_eq_accepted_iff.mpr ⟨_, keepable.written_eq (RecordKind.writable _) rfl, ?_, ?_, ?_⟩
  · exact keepable.written_whole (RecordKind.writable _) rfl
  · exact field_restores interfaces (fun _ _ given => optional_list_restores
      (once.restores_inside proper Interface.restores (by decide) given)) rfl rfl
  · exact keepable.extras_written (RecordKind.writable _) rfl rfl

/-! ## Hosts -/

theorem HostSpec.restores {d : Data} (proper : d.isProper = true) (once : GivenOnce .hostSpec d) :
    Restores check write d := by
  intro s read
  obtain ⟨es, rfl, config⟩ := check_eq_accepted_iff.mp read
  have state : ∀ name d, given? ["config"] es = some (name, d) → Restores NetworkState.check NetworkState.write d := by
    intro name d given
    have inside := once.restores_inside proper NetworkState.restores (by decide) given
    exact restores_of_items (fun _ => NetworkState.exists_map) inside
  exact check_eq_accepted_iff.mpr ⟨_, rfl, field_restores config state rfl rfl⟩

theorem Host.restores {d : Data} (proper : d.isProper = true) (once : GivenOnce .host d) : Restores check write d := by
  intro h read
  obtain ⟨es, rfl, apiVersion, kind, metadata, spec⟩ := check_eq_accepted_iff.mp read
  have inner : ∀ name d, given? ["spec"] es = some (name, d) → Restores HostSpec.check HostSpec.write d := by
    intro name d given
    have inside := once.restores_inside proper HostSpec.restores (by decide) given
    exact restores_of_items (fun _ => HostSpec.exists_map) inside
  refine check_eq_accepted_iff.mpr ⟨_, rfl, ?_, ?_, ?_, ?_⟩
  · exact field_restores apiVersion (fun _ d _ => text_restores d) rfl rfl
  · exact field_restores kind (fun _ d _ => text_restores d) rfl rfl
  · exact field_restores metadata (fun _ d _ => Metadata.restores d) rfl rfl
  · exact field_restores spec inner rfl rfl

theorem HostList.restores {d : Data} (proper : d.isProper = true) (once : GivenOnce .hostList d) :
    Restores check write d := by
  intro m read
  obtain ⟨es, rfl, hosts⟩ := check_eq_accepted_iff.mp read
  refine check_eq_accepted_iff.mpr ⟨_, rfl, ?_⟩
  exact field_restores hosts (fun _ _ given => list_restores
    (once.restores_inside proper Host.restores (by decide) given)) rfl rfl

/-! ## Settings -/

namespace Service.Settings

theorem make_eq_accepted_iff {port : Int} {basePath : String} {timeout : Float} {interval : Int} {s : Settings} :
    make port basePath timeout interval = .accepted s ↔
      port = s.port ∧ basePath = s.basePath ∧ timeout = s.timeout ∧ interval = s.pollInterval := by
  constructor
  · intro made
    unfold make at made
    split at made
    · split at made
      · cases made
        exact ⟨rfl, rfl, rfl, by show interval = (interval.toNat : Int); omega⟩
      · cases made
    · cases made
  · rintro ⟨rfl, rfl, rfl, rfl⟩
    have positive : 0 < (s.pollInterval : Int).toNat := s.pollInterval_pos
    rw [make, dif_pos s.timeout_pos, dif_pos positive]
    rfl

theorem check_eq_accepted_iff {d : Data} {s : Settings} :
    check d = .accepted s ↔ ∃ es, d = .map es ∧ field es ["port"] standard.port whole = .accepted s.port ∧
      field es ["base_path"] standard.basePath text = .accepted s.basePath ∧
      field es ["timeout_seconds"] standard.timeout (above 0) = .accepted s.timeout ∧
      field es ["poll_interval_seconds"] (standard.pollInterval : Int) (atLeast 1) = .accepted (s.pollInterval : Int) := by
  simp [check, Checked.andThen_eq_accepted_iff, make_eq_accepted_iff, record_eq_accepted_iff, Checked.seq_eq_accepted_iff,
    Checked.functor_map_eq_accepted_iff, and_assoc]

theorem above_standard : above 0 (.float standard.timeout) = .accepted standard.timeout := by
  exact above_eq_accepted_iff.mpr ⟨rfl, by decide +kernel⟩

theorem restores (d : Data) : Restores check write d := by
  intro s read
  obtain ⟨es, rfl, port, basePath, timeout, pollInterval⟩ := check_eq_accepted_iff.mp read
  refine check_eq_accepted_iff.mpr ⟨_, rfl, ?_, ?_, ?_, ?_⟩
  · exact field_restores port (fun _ d _ => whole_restores d) rfl rfl
  · exact field_restores basePath (fun _ d _ => text_restores d) rfl rfl
  · exact field_restores timeout (fun _ d _ => above_restores 0 d) above_standard rfl
  · exact field_restores pollInterval (fun _ d _ => atLeast_restores 1 d) rfl rfl

end Service.Settings

/-! ## All records -/

theorem dumps_of_keeps {k : RecordKind} (keeps : k.keeps = true) {es : Entries} {named : List (String × Data)} {kept : Extras}
    (once : GivenOnce k (.map es)) (keepable : Keepable k.fields kept) (h : extras k.fields es = .accepted kept)
    (last : named.map (·.1) = lastNames k.fields) : Dumps k (.map es) (written named kept) := by
  refine ⟨es, named, rfl, last, ?_⟩
  rw [keepable.written_eq k.writable last, map_entryOf_of_extras (givenOnce_map_iff.mp once).1 h, if_pos keeps]

theorem dumps_of_not_keeps {k : RecordKind} (keeps : k.keeps = false) {d : Data} (mapping : ∃ es, d = .map es)
    {named : List (String × Data)} (last : named.map (·.1) = lastNames k.fields) : Dumps k d (written named []) := by
  obtain ⟨es, rfl⟩ := mapping
  refine ⟨es, named, rfl, last, ?_⟩
  rw [keeps]
  exact congrArg Data.map (List.append_nil _).symm

theorem RecordKind.dumps (k : RecordKind) {d : Data} {a : k.Content} (proper : d.isProper = true) (once : GivenOnce k d)
    (accepted : k.check d = .accepted a) : Dumps k d (k.write a) := by
  cases k with
  | addressEntry =>
    obtain ⟨es, rfl, whole, _, _, kept⟩ := AddressEntry.check_eq_accepted_iff.mp accepted
    exact dumps_of_keeps rfl once (once.keepable proper whole kept) kept rfl
  | addressFamily =>
    obtain ⟨es, rfl, whole, _, _, kept⟩ := AddressFamily.check_eq_accepted_iff.mp accepted
    exact dumps_of_keeps rfl once (once.keepable proper whole kept) kept rfl
  | interface =>
    obtain ⟨es, rfl, whole, _, _, _, _, kept⟩ := Interface.check_eq_accepted_iff.mp accepted
    exact dumps_of_keeps rfl once (once.keepable proper whole kept) kept rfl
  | networkState =>
    obtain ⟨es, rfl, whole, _, kept⟩ := NetworkState.check_eq_accepted_iff.mp accepted
    exact dumps_of_keeps rfl once (once.keepable proper whole kept) kept rfl
  | metadata =>
    obtain ⟨es, mapping, _⟩ := Metadata.check_eq_accepted_iff.mp accepted
    exact dumps_of_not_keeps rfl ⟨es, mapping⟩ rfl
  | agentConfig =>
    obtain ⟨es, mapping, _⟩ := AgentConfig.check_eq_accepted_iff.mp accepted
    exact dumps_of_not_keeps rfl ⟨es, mapping⟩ rfl
  | hostSpec =>
    obtain ⟨es, mapping, _⟩ := HostSpec.check_eq_accepted_iff.mp accepted
    exact dumps_of_not_keeps rfl ⟨es, mapping⟩ rfl
  | host =>
    obtain ⟨es, mapping, _⟩ := Host.check_eq_accepted_iff.mp accepted
    exact dumps_of_not_keeps rfl ⟨es, mapping⟩ rfl
  | hostList =>
    obtain ⟨es, mapping, _⟩ := HostList.check_eq_accepted_iff.mp accepted
    exact dumps_of_not_keeps rfl ⟨es, mapping⟩ rfl
  | installConfig =>
    obtain ⟨es, mapping, _⟩ := InstallConfig.check_eq_accepted_iff.mp accepted
    exact dumps_of_not_keeps rfl ⟨es, mapping⟩ rfl
  | settings =>
    obtain ⟨es, mapping, _⟩ := Service.Settings.check_eq_accepted_iff.mp accepted
    exact dumps_of_not_keeps rfl ⟨es, mapping⟩ rfl

/-- Every record that is accepted is written out whole, and what is written is accepted as the same record: one that is
written in the same way again, and for a host one with the same name, mark and addresses. That data are proper is no
restriction on what a record can be read from, as no mapping holds a key twice. -/
theorem RecordKind.check_write (k : RecordKind) {d : Data} {a : k.Content} (proper : d.isProper = true) (once : GivenOnce k d)
    (accepted : k.check d = .accepted a) : Dumps k d (k.write a) ∧ k.check (k.write a) = .accepted a := by
  refine ⟨k.dumps proper once accepted, ?_⟩
  cases k with
  | metadata => exact Metadata.restores d accepted
  | agentConfig => exact AgentConfig.restores d accepted
  | addressEntry => exact AddressEntry.restores proper once accepted
  | addressFamily => exact AddressFamily.restores proper once accepted
  | interface => exact Interface.restores proper once accepted
  | networkState => exact NetworkState.restores proper once accepted
  | hostSpec => exact HostSpec.restores proper once accepted
  | host => exact Host.restores proper once accepted
  | hostList => exact HostList.restores proper once accepted
  | installConfig => exact InstallConfig.restores d accepted
  | settings => exact Service.Settings.restores d accepted

/-- A host whose declaration needs some reading: other types than the fields have, names of both kinds, and more than is
known. -/
def declared : Data :=
  .map [(.text "apiVersion", .text "v1"),
    (.text "metadata", .map [(.text "labels", .map [(.bytes "a".toUTF8.data.toList, .text "true")])]),
    (.text "spec", .map [(.text "config", .map [(.text "dns", .list [.null]), (.text "interfaces", .list [
      .map [(.text "ipv4", .map [(.text "enabled", .text "yes"), (.text "address", .list [
        .map [(.text "valid-life-time", .text "forever"), (.text "ip", .text "10.0.0.5"),
          (.text "prefix-length", .text "+024.0")]])])]])])])]

def declaredHost : Host where
  apiVersion := "v1"
  kind := "NMStateConfig"
  metadata := ⟨"", none, [("a", "true")]⟩
  spec := ⟨⟨some [⟨none, none, some ⟨some true, some [⟨"10.0.0.5", some 24, [("valid-life-time", .text "forever")]⟩], []⟩,
    none, []⟩], [("dns", .list [.null])]⟩⟩

theorem givenOnce_declared : GivenOnce .host declared := by
  unfold declared
  simp [givenOnce_map_iff, RecordKind.inside, RecordKind.fields, GivenByOne, given?, Data.entry?, Data.items]

theorem check_write_declared :
    declared.isProper = true ∧ GivenOnce .host declared ∧ RecordKind.host.check declared = .accepted declaredHost ∧
      Dumps .host declared (RecordKind.host.write declaredHost) ∧
      RecordKind.host.check (RecordKind.host.write declaredHost) = .accepted declaredHost := by
  have proper : declared.isProper = true := by decide +kernel
  have accepted : RecordKind.host.check declared = .accepted declaredHost := by rfl
  exact ⟨proper, givenOnce_declared, accepted, RecordKind.check_write .host proper givenOnce_declared accepted⟩

end InstallWatch
