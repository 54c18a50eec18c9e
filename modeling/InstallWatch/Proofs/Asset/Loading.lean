import Mathlib
import InstallWatch.Asset.Bundle
import InstallWatch.Proofs.Yaml.Untagged

/-!
What loading an asset comes to: nothing where no file is, what a valid file holds, or a fault. Which faults escape those
who load is a matter of the way to the file and of its YAML alone: of a path that cannot be followed, and of texts whose
first fault is a tag that does not fit its node, or something that is too deep, too far or too large to be read.
-/

namespace InstallWatch.Asset
open InstallWatch.Results InstallWatch.Schema InstallWatch.Yaml

theorem isExpected_yaml_iff {text : List Char} {y : Yaml.Fault} :
    (ReadFault.yaml text y).isExpected = false ↔ IsStray y := by
  constructor
  · intro h
    cases y with
    | text stop => cases stop <;> first | constructor | cases h
    | node flaw => cases flaw <;> first | constructor | cases h
  · intro h
    cases h <;> rfl

/-- The entries of the one mapping in a text. A text that says nothing has none. -/
inductive Mapping [Yaml.Room] (text : List Char) : List (Data × Data) → Prop where
  | void (d : Data) (reads : Yaml.readOne text = .ok d) (void : d.isVoid = true) : Mapping text []
  | filled (es : List (Data × Data)) (reads : Yaml.readOne text = .ok (.map es))
      (filled : (Data.map es).isVoid = false) : Mapping text es

/-- Documents that declare hosts, one each, but for those that say nothing. -/
inductive HostDocuments : List Data → List Host → Prop where
  | nil : HostDocuments [] []
  | void (d : Data) (ds : List Data) (hs : List Host) (void : d.isVoid = true) (rest : HostDocuments ds hs) :
      HostDocuments (d :: ds) hs
  | host (es : List (Data × Data)) (h : Host) (ds : List Data) (hs : List Host)
      (filled : (Data.map es).isVoid = false) (valid : Host.check (.map es) = .accepted h)
      (rest : HostDocuments ds hs) : HostDocuments (.map es :: ds) (h :: hs)

/-- What the text of an asset's file holds. -/
inductive Holds [Yaml.Room] (text : List Char) : (a : Asset) → a.Content → Prop where
  | agentConfig (es : List (Data × Data)) (c : AgentConfig) (reads : Mapping text es)
      (valid : AgentConfig.check (.map es) = .accepted c) : Holds text .agentConfig c
  | hosts (ds : List Data) (hs : List Host) (reads : Yaml.readAll text = (ds, none))
      (valid : HostDocuments ds hs) : Holds text .hosts ⟨hs⟩
  | installConfig (es : List (Data × Data)) (c : InstallConfig) (reads : Mapping text es)
      (valid : InstallConfig.check (.map es) = .accepted c) : Holds text .installConfig c

/-- The first fault in the text of an asset's file is a stray one. -/
inductive Strays [Yaml.Room] (text : List Char) : Asset → Prop where
  | agentConfig (y : Yaml.Fault) (stray : IsStray y) (reads : Yaml.readOne text = .error y) : Strays text .agentConfig
  | hosts (y : Yaml.Fault) (stray : IsStray y) (ds : List Data) (hs : List Host)
      (reads : Yaml.readAll text = (ds, some y)) (valid : HostDocuments ds hs) : Strays text .hosts
  | installConfig (y : Yaml.Fault) (stray : IsStray y) (reads : Yaml.readOne text = .error y) :
      Strays text .installConfig

/-- The documents that the file of an asset is read to, and what is wrong with its text. -/
def documentsIn [Yaml.Room] (text : List Char) : Asset → List Document × Option Stop
  | .hosts => documentsOf text
  | _ => soleDocuments text

/-! ## Reading -/

theorem checked_eq_ok_iff {α : Type} {title : String} {check : Data → Checked α} {d : Data} {v : α} :
    checked title check d = .ok v ↔ check d = .accepted v := by
  unfold checked
  cases check d <;> simp

theorem checked_isExpected {α : Type} {title : String} {check : Data → Checked α} {d : Data} {f : ReadFault}
    (h : checked title check d = .error f) : f.isExpected = true := by
  unfold checked at h
  split at h
  · cases h
  · cases h
    rfl

theorem hostDocuments_nil_iff {hs : List Host} : HostDocuments [] hs ↔ hs = [] := by
  constructor
  · intro h
    cases h
    rfl
  · rintro rfl
    exact .nil

theorem hostDocuments_void_iff {d : Data} {ds : List Data} {hs : List Host} (void : d.isVoid = true) :
    HostDocuments (d :: ds) hs ↔ HostDocuments ds hs := by
  constructor
  · intro h
    cases h with
    | void _ _ _ _ rest => exact rest
    | host es h _ hs filled =>
      rw [void] at filled
      cases filled
  · exact .void d ds hs void

theorem hostDocuments_filled_iff {d : Data} {ds : List Data} {hs : List Host} (filled : d.isVoid = false) :
    HostDocuments (d :: ds) hs ↔ ∃ es h rest, d = .map es ∧ hs = h :: rest ∧
      Host.check (.map es) = .accepted h ∧ HostDocuments ds rest := by
  constructor
  · intro h
    cases h with
    | void _ _ _ void rest =>
      rw [filled] at void
      cases void
    | host es h _ hs _ valid rest => exact ⟨es, h, hs, rfl, rfl, valid, rest⟩
  · intro h
    obtain ⟨es, h, rest, rfl, rfl, valid, docs⟩ := h
    exact .host es h ds rest filled valid docs

theorem hostsOf_void {file : String} {s : List Char} {d : Data} {ds : List Data} {fault : Option Yaml.Fault} (void : d.isVoid = true) :
    hostsOf file s (d :: ds) fault = hostsOf file s ds fault := by
  cases d <;> simp [hostsOf, void]

/-- A document that says something has to declare a host, and then the rest counts. -/
theorem hostsOf_map {file : String} {s : List Char} {es : List (Data × Data)} {ds : List Data} {fault : Option Yaml.Fault}
    (filled : (Data.map es).isVoid = false) :
    hostsOf file s (.map es :: ds) fault = (do
      let h ← checked Host.title Host.check (.map es)
      let hs ← hostsOf file s ds fault
      return h :: hs) := by
  simp only [hostsOf, filled, Bool.false_eq_true, ↓reduceIte]

theorem hostsOf_notMapping {file : String} {s : List Char} {d : Data} {ds : List Data} {fault : Option Yaml.Fault}
    (filled : d.isVoid = false) (other : ∀ es, d ≠ .map es) :
    hostsOf file s (d :: ds) fault = .error (.notMappings file) := by
  cases d with
  | map es => exact absurd rfl (other es)
  | _ => simp [hostsOf, filled]

theorem hostsOf_eq_ok_iff {file : String} {s : List Char} {ds : List Data} {fault : Option Yaml.Fault} {hs : List Host} :
    hostsOf file s ds fault = .ok hs ↔ fault = none ∧ HostDocuments ds hs := by
  induction ds generalizing hs with
  | nil =>
    rw [hostDocuments_nil_iff]
    cases fault with
    | none => simp [hostsOf, eq_comm]
    | some y => simp [hostsOf]
  | cons d ds ih =>
    cases hv : d.isVoid with
    | true => rw [hostsOf_void hv, ih, hostDocuments_void_iff hv]
    | false =>
      rw [hostDocuments_filled_iff hv]
      by_cases hm : ∃ es, d = .map es
      · obtain ⟨es, rfl⟩ := hm
        rw [hostsOf_map hv, bind_eq_ok_iff]
        constructor
        · intro h
          obtain ⟨first, hfirst, h⟩ := h
          obtain ⟨rest, hrest, h⟩ := bind_eq_ok_iff.mp h
          cases h
          obtain ⟨hf, docs⟩ := ih.mp hrest
          exact ⟨hf, es, first, rest, rfl, rfl, checked_eq_ok_iff.mp hfirst, docs⟩
        · intro h
          obtain ⟨hf, _, first, rest, ⟨⟩, rfl, valid, docs⟩ := h
          exact ⟨first, checked_eq_ok_iff.mpr valid, bind_eq_ok_iff.mpr ⟨rest, ih.mpr ⟨hf, docs⟩, rfl⟩⟩
      · have other : ∀ es, d ≠ .map es := fun es he => hm ⟨es, he⟩
        rw [hostsOf_notMapping hv other]
        constructor
        · intro h
          cases h
        · intro h
          obtain ⟨_, es, _, _, he, _⟩ := h
          exact absurd he (other es)

/-- Where hosts are wanted, only the YAML behind documents that are all in order has stray faults. -/
theorem hostsOf_strays_iff {file : String} {s : List Char} {ds : List Data} {fault : Option Yaml.Fault} :
    (∃ f, hostsOf file s ds fault = .error f ∧ f.isExpected = false) ↔
      ∃ y hs, fault = some y ∧ IsStray y ∧ HostDocuments ds hs := by
  induction ds with
  | nil =>
    simp only [hostDocuments_nil_iff]
    cases fault with
    | none => simp [hostsOf]
    | some y => simp [hostsOf, isExpected_yaml_iff]
  | cons d ds ih =>
    cases hv : d.isVoid with
    | true => simp only [hostsOf_void hv, ih, hostDocuments_void_iff hv]
    | false =>
      simp only [hostDocuments_filled_iff hv]
      by_cases hm : ∃ es, d = .map es
      · obtain ⟨es, rfl⟩ := hm
        rw [hostsOf_map hv]
        constructor
        · intro h
          obtain ⟨f, h, hf⟩ := h
          rcases bind_eq_error_iff.mp h with h | ⟨first, hfirst, h⟩
          · rw [checked_isExpected h] at hf
            cases hf
          · rcases bind_eq_error_iff.mp h with h | ⟨rest, _, h⟩
            · obtain ⟨y, hs, hy, stray, docs⟩ := ih.mp ⟨f, h, hf⟩
              exact ⟨y, first :: hs, hy, stray, es, first, hs, rfl, rfl, checked_eq_ok_iff.mp hfirst, docs⟩
            · cases h
        · intro h
          obtain ⟨y, _, hy, stray, _, first, rest, ⟨⟩, rfl, valid, docs⟩ := h
          obtain ⟨f, h, hf⟩ := ih.mpr ⟨y, rest, hy, stray, docs⟩
          refine ⟨f, bind_eq_error_iff.mpr (.inr ⟨first, checked_eq_ok_iff.mpr valid, ?_⟩), hf⟩
          exact bind_eq_error_iff.mpr (.inl h)
      · have other : ∀ es, d ≠ .map es := fun es he => hm ⟨es, he⟩
        rw [hostsOf_notMapping hv other]
        constructor
        · intro h
          obtain ⟨_, ⟨⟩, hf⟩ := h
          cases hf
        · intro h
          obtain ⟨_, _, _, _, es, _, _, he, _⟩ := h
          exact absurd he (other es)

section
variable [Yaml.Room]

theorem mapping_eq_ok_iff {file : String} {text : List Char} {d : Data} :
    mapping file text = .ok d ↔ ∃ es, d = .map es ∧ Mapping text es := by
  unfold mapping
  constructor
  · intro h
    cases hr : Yaml.readOne text with
    | error y => simp [hr] at h
    | ok v =>
      simp only [hr] at h
      split at h
      · cases h
        exact ⟨[], rfl, .void v hr ‹_›⟩
      · rename_i filled
        split at h
        · rename_i es
          cases h
          exact ⟨es, rfl, .filled es hr (by simpa using filled)⟩
        · cases h
  · intro h
    obtain ⟨es, rfl, ⟨v, reads, void⟩ | ⟨es, reads, filled⟩⟩ := h
    · simp [reads, void]
    · simp [reads, filled]

/-- Where a mapping is wanted, only the YAML of the text has stray faults. -/
theorem mapping_isExpected_iff {file : String} {text : List Char} {f : ReadFault} (h : mapping file text = .error f) :
    f.isExpected = false ↔ ∃ y, IsStray y ∧ Yaml.readOne text = .error y := by
  unfold mapping at h
  cases hr : Yaml.readOne text with
  | error y =>
    simp only [hr] at h
    cases h
    rw [isExpected_yaml_iff]
    constructor
    · exact fun stray => ⟨y, stray, rfl⟩
    · intro h
      obtain ⟨_, stray, ⟨⟩⟩ := h
      exact stray
  | ok v =>
    simp only [hr] at h
    split at h
    · cases h
    · split at h
      · cases h
      · cases h
        simp [ReadFault.isExpected]

/-- A record that is checked in the one mapping of a text. -/
theorem checkedMapping_eq_ok_iff {α : Type} {title file : String} {text : List Char} {check : Data → Checked α}
    {v : α} :
    (do checked title check (← mapping file text)) = .ok v ↔
      ∃ es, Mapping text es ∧ check (.map es) = .accepted v := by
  rw [bind_eq_ok_iff]
  simp only [mapping_eq_ok_iff, checked_eq_ok_iff]
  constructor
  · intro h
    obtain ⟨_, ⟨es, rfl, reads⟩, valid⟩ := h
    exact ⟨es, reads, valid⟩
  · intro h
    obtain ⟨es, reads, valid⟩ := h
    exact ⟨_, ⟨es, rfl, reads⟩, valid⟩

theorem checkedMapping_strays_iff {α : Type} {title file : String} {text : List Char} {check : Data → Checked α} :
    (∃ f, (do checked title check (← mapping file text)) = .error f ∧ f.isExpected = false) ↔
      ∃ y, IsStray y ∧ Yaml.readOne text = .error y := by
  constructor
  · intro h
    obtain ⟨f, h, hf⟩ := h
    rcases bind_eq_error_iff.mp h with h | ⟨_, _, h⟩
    · exact (mapping_isExpected_iff h).mp hf
    · rw [checked_isExpected h] at hf
      cases hf
  · intro h
    have fault : ∃ f, mapping file text = .error f := by
      obtain ⟨y, _, hy⟩ := h
      exact ⟨.yaml text y, by simp [mapping, hy]⟩
    obtain ⟨f, hf⟩ := fault
    exact ⟨f, bind_eq_error_iff.mpr (.inl hf), (mapping_isExpected_iff hf).mpr h⟩

/-- A text is read to what it holds, and to nothing else. -/
theorem ofText_eq_ok_iff {file : String} {text : List Char} {a : Asset} {content : a.Content} :
    ofText file text a = .ok content ↔ Holds text a content := by
  cases a with
  | agentConfig =>
    rw [ofText, checkedMapping_eq_ok_iff]
    constructor
    · intro h
      obtain ⟨es, reads, valid⟩ := h
      exact .agentConfig es content reads valid
    · intro h
      cases h with
      | agentConfig es _ reads valid => exact ⟨es, reads, valid⟩
  | hosts =>
    rw [ofText, bind_eq_ok_iff]
    constructor
    · intro h
      obtain ⟨hs, hhs, h⟩ := h
      cases h
      obtain ⟨none, docs⟩ := hostsOf_eq_ok_iff.mp hhs
      exact .hosts _ hs (Prod.ext rfl none) docs
    · intro h
      cases h with
      | hosts ds hs reads docs =>
        rw [reads]
        exact ⟨hs, hostsOf_eq_ok_iff.mpr ⟨rfl, docs⟩, rfl⟩
  | installConfig =>
    rw [ofText, checkedMapping_eq_ok_iff]
    constructor
    · intro h
      obtain ⟨es, reads, valid⟩ := h
      exact .installConfig es content reads valid
    · intro h
      cases h with
      | installConfig es _ reads valid => exact ⟨es, reads, valid⟩

theorem ofText_strays_iff {file : String} {text : List Char} {a : Asset} :
    (∃ f, ofText file text a = .error f ∧ f.isExpected = false) ↔ Strays text a := by
  cases a with
  | agentConfig =>
    rw [ofText, checkedMapping_strays_iff]
    constructor
    · intro h
      obtain ⟨y, stray, reads⟩ := h
      exact .agentConfig y stray reads
    · intro h
      cases h with
      | agentConfig y stray reads => exact ⟨y, stray, reads⟩
  | hosts =>
    rw [ofText]
    constructor
    · intro h
      obtain ⟨f, h, hf⟩ := h
      rcases bind_eq_error_iff.mp h with h | ⟨_, _, h⟩
      · obtain ⟨y, hs, hy, stray, docs⟩ := hostsOf_strays_iff.mp ⟨f, h, hf⟩
        exact .hosts y stray _ hs (Prod.ext rfl hy) docs
      · cases h
    · intro h
      cases h with
      | hosts y stray ds hs reads docs =>
        rw [reads]
        have stopped : ∃ f, hostsOf file text ds (some y) = .error f ∧ f.isExpected = false :=
          hostsOf_strays_iff.mpr ⟨y, hs, rfl, stray, docs⟩
        obtain ⟨f, h, hf⟩ := stopped
        exact ⟨f, bind_eq_error_iff.mpr (.inl h), hf⟩
  | installConfig =>
    rw [ofText, checkedMapping_strays_iff]
    constructor
    · intro h
      obtain ⟨y, stray, reads⟩ := h
      exact .installConfig y stray reads
    · intro h
      cases h with
      | installConfig y stray reads => exact ⟨y, stray, reads⟩

/-- A stray text is too deep or has a huge character, or one of its documents has a node that does not fit its tag. -/
theorem Strays.astray {text : List Char} {a : Asset} (h : Strays text a) :
    Astray (documentsIn text a).1 (documentsIn text a).2 := by
  cases h with
  | agentConfig y stray reads => exact readOne_astray reads stray
  | hosts y stray ds hs reads valid => exact readAll_astray reads stray
  | installConfig y stray reads => exact readOne_astray reads stray

/-- Without tags, a stray text is too much: too deep, or with a character or a number out of bounds. -/
theorem Strays.excessive {text : List Char} {a : Asset} (h : Strays text a) (untagged : Untagged text) :
    Excessive (documentsIn text a).1 (documentsIn text a).2 := by
  refine h.astray.excessive ?_
  cases a with
  | hosts => exact documentsOf_natural untagged
  | agentConfig => exact soleDocuments_natural untagged
  | installConfig => exact soleDocuments_natural untagged

/-! ## Loading -/

open Files Store

/-- The text of an asset's file in a store. -/
def HasText (t : Tree) (env : Environment) (s : Store) (a : Asset) (text : List Char) : Prop :=
  ∃ bytes, t.file? (s.pathOf a) = .ok (some (.ok bytes)) ∧ fileText env bytes = .ok text

/-- The load of an asset ends in a fault that nobody expects. -/
inductive Escapes (t : Tree) (env : Environment) (s : Store) (a : Asset) : Prop where
  | unreachable (new : s.cached a = none) (f : Files.Fault) (hidden : t.file? (s.pathOf a) = .error f)
  | strays (new : s.cached a = none) (text : List Char) (there : HasText t env s a text) (strays : Strays text a)

/-- What is promised of a load: that it ends with nothing where no file is, with what is kept or what the file holds, or
with an expected fault of this asset, whose file then holds nothing. -/
inductive Keeps (t : Tree) (env : Environment) (s : Store) (a : Asset) : Except LoadFault (Option a.Content) → Prop where
  | absent (new : s.cached a = none) (absent : t.file? (s.pathOf a) = .ok none) : Keeps t env s a (.ok none)
  | kept (content : a.Content) (kept : s.cached a = some content) : Keeps t env s a (.ok (some content))
  | read (content : a.Content) (new : s.cached a = none) (text : List Char) (there : HasText t env s a text)
      (holds : Holds text a content) : Keeps t env s a (.ok (some content))
  | bad (reason : ReadFault) (new : s.cached a = none) (contents : Contents)
      (there : t.file? (s.pathOf a) = .ok (some contents))
      (bad : ∀ text content, HasText t env s a text → ¬ Holds text a content)
      (expected : reason.isExpected = true) : Keeps t env s a (.error ⟨a, s.pathOf a, reason⟩)

theorem ofBytes_eq_ok_iff {file : String} {env : Environment} {bytes : Text.Bytes} {a : Asset} {content : a.Content} :
    ofBytes file env bytes a = .ok content ↔ ∃ text, fileText env bytes = .ok text ∧ Holds text a content := by
  simp only [ofBytes, bind_eq_ok_iff, ofText_eq_ok_iff]

theorem ofBytes_strays_iff {file : String} {env : Environment} {bytes : Text.Bytes} {a : Asset} :
    (∃ f, ofBytes file env bytes a = .error f ∧ f.isExpected = false) ↔
      ∃ text, fileText env bytes = .ok text ∧ Strays text a := by
  simp only [← @ofText_strays_iff _ file]
  constructor
  · intro h
    obtain ⟨f, h, hf⟩ := h
    rcases bind_eq_error_iff.mp h with h | ⟨text, htext, h⟩
    · unfold fileText at h
      split at h
      · cases h
        cases hf
      · cases h
    · exact ⟨text, htext, f, h, hf⟩
  · intro h
    obtain ⟨text, htext, f, h, hf⟩ := h
    exact ⟨f, bind_eq_error_iff.mpr (.inr ⟨text, htext, h⟩), hf⟩

theorem ofContents_eq_ok_iff {file : String} {env : Environment} {c : Contents} {a : Asset} {content : a.Content} :
    ofContents file env c a = .ok content ↔
      ∃ bytes, c = .ok bytes ∧ ∃ text, fileText env bytes = .ok text ∧ Holds text a content := by
  cases c with
  | error complaint => simp [ofContents]
  | ok bytes => simp [ofContents, ofBytes_eq_ok_iff]

/-- A file that cannot be read is a fault that is expected. -/
theorem ofContents_strays_iff {file : String} {env : Environment} {c : Contents} {a : Asset} :
    (∃ f, ofContents file env c a = .error f ∧ f.isExpected = false) ↔
      ∃ bytes, c = .ok bytes ∧ ∃ text, fileText env bytes = .ok text ∧ Strays text a := by
  cases c with
  | error complaint => simp [ofContents, ReadFault.isExpected]
  | ok bytes => simp [ofContents, ofBytes_strays_iff]

section
variable {t : Tree} {env : Environment} {s : Store} {a : Asset}

theorem load_cached {content : a.Content} (h : s.cached a = some content) :
    s.load t env a = ⟨s, [], .ok (some content)⟩ := by
  rw [load, h]

theorem load_hidden {f : Files.Fault} (new : s.cached a = none) (h : t.file? (s.pathOf a) = .error f) :
    s.load t env a = ⟨s, [], .error ⟨a, s.pathOf a, .unreachable f⟩⟩ := by
  simp only [load, new, h]

theorem load_absent (new : s.cached a = none) (h : t.file? (s.pathOf a) = .ok none) :
    s.load t env a =
      ⟨s, [Journal.debug (a.label ++ " not found at " ++ (s.pathOf a).text)], .ok none⟩ := by
  simp only [load, new, h]

/-- A file that is there is loaded as it is read. -/
theorem load_there {contents : Contents} (new : s.cached a = none)
    (h : t.file? (s.pathOf a) = .ok (some contents)) :
    (s.load t env a).outcome =
      ((ofContents (s.pathOf a).name env contents a).map some).mapError (LoadFault.mk a (s.pathOf a)) := by
  cases hr : ofContents (s.pathOf a).name env contents a with
  | error reason => simp only [load, new, h, hr, Except.map, Except.mapError]
  | ok content => simp only [load, new, h, hr, Except.map, Except.mapError]

theorem load_none_iff :
    (s.load t env a).outcome = .ok none ↔ s.cached a = none ∧ t.file? (s.pathOf a) = .ok none := by
  cases hc : s.cached a with
  | some content => simp [load_cached hc]
  | none =>
    cases hf : t.file? (s.pathOf a) with
    | error f => simp [load_hidden hc hf]
    | ok there =>
      cases there with
      | none => simp [load_absent hc hf]
      | some contents =>
        rw [load_there hc hf]
        cases ofContents (s.pathOf a).name env contents a <;> simp [Except.map, Except.mapError]

theorem load_some_iff {content : a.Content} :
    (s.load t env a).outcome = .ok (some content) ↔
      s.cached a = some content ∨ s.cached a = none ∧ ∃ text, HasText t env s a text ∧ Holds text a content := by
  cases hc : s.cached a with
  | some kept => simp [load_cached hc]
  | none =>
    cases hf : t.file? (s.pathOf a) with
    | error f => simp [load_hidden hc hf, HasText, hf]
    | ok there =>
      cases there with
      | none => simp [load_absent hc hf, HasText, hf]
      | some contents =>
        have held : (∃ text, HasText t env s a text ∧ Holds text a content) ↔
            ofContents (s.pathOf a).name env contents a = .ok content := by
          rw [ofContents_eq_ok_iff]
          simp only [HasText, hf, Except.ok.injEq, Option.some.injEq]
          constructor
          · intro h
            obtain ⟨text, ⟨bytes, rfl, reads⟩, holds⟩ := h
            exact ⟨bytes, rfl, text, reads, holds⟩
          · intro h
            obtain ⟨bytes, rfl, text, reads, holds⟩ := h
            exact ⟨text, ⟨bytes, rfl, reads⟩, holds⟩
        rw [load_there hc hf, held]
        cases ofContents (s.pathOf a).name env contents a <;> simp [Except.map, Except.mapError]

theorem load_error_iff {f : LoadFault} :
    (s.load t env a).outcome = .error f ↔ s.cached a = none ∧
      ∃ reason, f = ⟨a, s.pathOf a, reason⟩ ∧
        ((∃ hidden, t.file? (s.pathOf a) = .error hidden ∧ reason = .unreachable hidden) ∨
          ∃ contents, t.file? (s.pathOf a) = .ok (some contents) ∧
            ofContents (s.pathOf a).name env contents a = .error reason) := by
  cases hc : s.cached a with
  | some kept => simp [load_cached hc]
  | none =>
    cases hf : t.file? (s.pathOf a) with
    | error hidden =>
      rw [load_hidden hc hf]
      constructor
      · intro h
        cases h
        exact ⟨rfl, _, rfl, .inl ⟨hidden, rfl, rfl⟩⟩
      · intro h
        obtain ⟨_, _, rfl, ⟨_, ⟨⟩, rfl⟩ | ⟨_, ⟨⟩, _⟩⟩ := h
        rfl
    | ok there =>
      cases there with
      | none => simp [load_absent hc hf]
      | some contents =>
        rw [load_there hc hf]
        cases hr : ofContents (s.pathOf a).name env contents a <;> simp [hr, Except.map, Except.mapError, eq_comm]

theorem load_escapes_iff :
    (∃ f, (s.load t env a).outcome = .error f ∧ f.reason.isExpected = false) ↔ Escapes t env s a := by
  simp only [load_error_iff]
  constructor
  · intro h
    obtain ⟨_, ⟨new, reason, rfl, ⟨hidden, hf, _⟩ | ⟨contents, hf, hr⟩⟩, he⟩ := h
    · exact .unreachable new hidden hf
    · obtain ⟨bytes, rfl, text, htext, strays⟩ := ofContents_strays_iff.mp ⟨reason, hr, he⟩
      exact .strays new text ⟨bytes, hf, htext⟩ strays
  · intro h
    cases h with
    | unreachable new hidden hf => exact ⟨_, ⟨new, _, rfl, .inl ⟨hidden, hf, rfl⟩⟩, rfl⟩
    | strays new text there strays =>
      obtain ⟨bytes, hf, htext⟩ := there
      obtain ⟨reason, hr, he⟩ := ofContents_strays_iff.mpr ⟨bytes, rfl, text, htext, strays⟩
      exact ⟨_, ⟨new, reason, rfl, .inr ⟨_, hf, hr⟩⟩, he⟩

/-- A load keeps its promise for every file that does not escape, and for no other one. -/
theorem load_keeps_iff : Keeps t env s a (s.load t env a).outcome ↔ ¬ Escapes t env s a := by
  rw [← load_escapes_iff]
  constructor
  · intro h escapes
    obtain ⟨f, hf, he⟩ := escapes
    rw [hf] at h
    cases h with
    | bad _ _ _ _ _ expected =>
      rw [expected] at he
      cases he
  · intro calm
    cases ho : (s.load t env a).outcome with
    | ok held =>
      cases held with
      | none =>
        obtain ⟨new, absent⟩ := load_none_iff.mp ho
        exact .absent new absent
      | some content =>
        rcases load_some_iff.mp ho with kept | ⟨new, text, there, holds⟩
        · exact .kept content kept
        · exact .read content new text there holds
    | error f =>
      obtain ⟨new, reason, rfl, ⟨hidden, _, rfl⟩ | ⟨contents, hf, hr⟩⟩ := load_error_iff.mp ho
      · exact absurd ⟨_, ho, rfl⟩ calm
      · refine .bad reason new contents hf ?_ ?_
        · intro text content there holds
          cases ho.symm.trans (load_some_iff.mpr (.inr ⟨new, text, there, holds⟩))
        · cases he : reason.isExpected with
          | true => rfl
          | false => exact absurd ⟨_, ho, he⟩ calm

theorem load_folder : (s.load t env a).store.folder = s.folder := by
  unfold load
  split
  · rfl
  · dsimp only
    split
    · rfl
    · rfl
    · split <;> rfl

/-- A load leaves what is kept of other assets as it is. -/
theorem load_cached_of_ne {b : Asset} (h : a ≠ b) : (s.load t env a).store.cached b = s.cached b := by
  unfold load
  split
  · rfl
  · dsimp only
    split
    · rfl
    · rfl
    · split
      · rfl
      · exact cached_keep_of_ne h _

theorem escapes_load_iff {b : Asset} (h : a ≠ b) : Escapes t env (s.load t env a).store b ↔ Escapes t env s b := by
  have kept : (s.load t env a).store.cached b = s.cached b := load_cached_of_ne h
  have path : (s.load t env a).store.pathOf b = s.pathOf b := by
    rw [pathOf, load_folder, pathOf]
  constructor
  · intro h
    cases h with
    | unreachable new f hidden => exact .unreachable (kept ▸ new) f (path ▸ hidden)
    | strays new text there strays =>
      exact .strays (kept ▸ new) text (by simpa only [HasText, path] using there) strays
  · intro h
    cases h with
    | unreachable new f hidden => exact .unreachable (kept ▸ new) f (path ▸ hidden)
    | strays new text there strays =>
      exact .strays (kept ▸ new) text (by simpa only [HasText, path] using there) strays

end

end

/-! ## All assets -/

namespace Bundle
open Files Store

variable [Library] {t : Tree} {env : Environment} {p : Progress} {a : Asset}

/-- An asset that escapes stops the loading. After any other one it goes on with what is kept by then. -/
theorem attempt_cases (t : Tree) (env : Environment) (p : Progress) (a : Asset) :
    (Escapes t env p.store a ∧ ∃ q f, attempt t env p a = (q, .error f)) ∨
      ¬ Escapes t env p.store a ∧
        ∃ q content, attempt t env p a = (q, .ok content) ∧ q.store = (p.store.load t env a).store := by
  rw [← load_escapes_iff]
  unfold attempt
  dsimp only
  cases (p.store.load t env a).outcome with
  | ok content =>
    refine .inr ⟨by simp, _, content, rfl, ?_⟩
    rfl
  | error f =>
    dsimp only
    cases hf : f.reason.isExpected with
    | true =>
      refine .inr ⟨by simp [hf], _, none, rfl, ?_⟩
      rfl
    | false => exact .inl ⟨⟨f, rfl, hf⟩, _, f, rfl⟩

/-- The store after every asset has been tried. -/
def storeAfter (t : Tree) (env : Environment) (s : Store) : Store :=
  Asset.all.foldl (fun s a => (s.load t env a).store) s

/-- Trying assets stops at one that escapes, and goes on to the last one if none does. -/
theorem load_cases (t : Tree) (env : Environment) (s : Store) :
    (∃ a f, Escapes t env s a ∧ (Bundle.load t env s).2.2 = .error (.unexpected f)) ∨
      (∀ a, ¬ Escapes t env s a) ∧ (Bundle.load t env s).1 = storeAfter t env s ∧
        ∀ f, (Bundle.load t env s).2.2 ≠ .error (.unexpected f) := by
  -- a load changes what is kept of its own asset only, so each asset escapes now if it did at the start
  rcases attempt_cases t env ⟨s, [], none⟩ .agentConfig with ⟨esc, _, f, h₁⟩ | ⟨calm₁, p₁, agentConfig, h₁, store₁⟩
  · exact .inl ⟨.agentConfig, f, esc, by simp only [Bundle.load, h₁]⟩
  have escapes₁ : ∀ b, Asset.agentConfig ≠ b → (Escapes t env p₁.store b ↔ Escapes t env s b) := by
    intro b h
    rw [store₁, escapes_load_iff h]
  rcases attempt_cases t env p₁ .hosts with ⟨esc, _, f, h₂⟩ | ⟨calm₂, p₂, hosts, h₂, store₂⟩
  · exact .inl ⟨.hosts, f, (escapes₁ .hosts (by decide)).mp esc, by simp only [Bundle.load, h₁, h₂]⟩
  have escapes₂ : Escapes t env p₂.store .installConfig ↔ Escapes t env s .installConfig := by
    rw [store₂, escapes_load_iff (by decide), escapes₁ .installConfig (by decide)]
  rcases attempt_cases t env p₂ .installConfig with ⟨esc, _, f, h₃⟩ | ⟨calm₃, p₃, installConfig, h₃, store₃⟩
  · exact .inl ⟨.installConfig, f, escapes₂.mp esc, by simp only [Bundle.load, h₁, h₂, h₃]⟩
  refine .inr ⟨?_, ?_, ?_⟩
  · intro a
    cases a with
    | agentConfig => exact calm₁
    | hosts => rwa [← escapes₁ .hosts (by decide)]
    | installConfig => rwa [← escapes₂]
  · simp only [Bundle.load, h₁, h₂, h₃]
    have all : storeAfter t env s = p₃.store := by
      rw [store₃, store₂, store₁]
      rfl
    rw [all]
    cases p₃.first <;> rfl
  · intro f
    simp only [Bundle.load, h₁, h₂, h₃]
    cases p₃.first <;> simp

end Bundle

end InstallWatch.Asset
