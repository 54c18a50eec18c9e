import Mathlib
import InstallWatch.Proofs.Asset.Loading
import InstallWatch.Proofs.Yaml.Depth
import InstallWatch.Proofs.Yaml.Top
import InstallWatch.Proofs.Yaml.Values

/-!
What may stand at the top of an asset's file. Null and mappings may, and every other value makes the load fail, unless
it is a zero or empty: those pass as if they were null. The hosts are those of the mappings that say something, one for
each of them, in their order.
-/

namespace InstallWatch.Asset
open InstallWatch.Results InstallWatch.Yaml Files

/-! ## Values that have no place -/

/-- A misplaced value that stands for nothing. -/
inductive ZeroLike : Data → Prop where
  | falsity : ZeroLike (.bool false)
  | intZero : ZeroLike (.int 0)
  | floatZero (x : Float) (zero : (x == 0.0) = true) : ZeroLike (.float x)
  | emptyText : ZeroLike (.text "")
  | emptyBytes : ZeroLike (.bytes [])
  | emptyList : ZeroLike (.list [])
  | emptySet : ZeroLike (.set [])

/-- The mapping is a record of the asset's kind. -/
def Valid : Asset → List (Data × Data) → Prop
  | .agentConfig, es => ∃ c, AgentConfig.check (.map es) = .accepted c
  | .hosts, es => ∃ h, Host.check (.map es) = .accepted h
  | .installConfig, es => ∃ c, InstallConfig.check (.map es) = .accepted c

/-- The value may stand at the top of the asset's file. -/
inductive Fits (a : Asset) : Data → Prop where
  | null : Fits a .null
  | empty : Fits a (.map [])
  | valid (es : List (Data × Data)) (valid : Valid a es) : Fits a (.map es)

/-- The entries of each mapping that says something. -/
def fillings (ds : List Data) : List (List (Data × Data)) :=
  ds.filterMap fun
    | .map (e :: es) => some (e :: es)
    | _ => none

/-- What the values of a file make: one host for each mapping that says something, in their order, or else the record of
the only mapping. -/
def Makes (ds : List Data) : (a : Asset) → a.Content → Prop
  | .agentConfig, c => ds.length ≤ 1 ∧ AgentConfig.check (.map (fillings ds).flatten) = .accepted c
  | .hosts, c => List.Forall₂ (fun es h => Host.check (.map es) = .accepted h) (fillings ds) c.hosts
  | .installConfig, c => ds.length ≤ 1 ∧ InstallConfig.check (.map (fillings ds).flatten) = .accepted c

variable {d : Data} {ds : List Data} {a : Asset}

theorem isVoid_iff : d.isVoid = true ↔ d = .null ∨ d = .map [] ∨ ZeroLike d := by
  constructor
  · intro h
    cases d with
    | null => exact .inl rfl
    | bool b =>
      cases b with
      | false => exact .inr (.inr .falsity)
      | true => cases h
    | int n =>
      obtain rfl : n = 0 := of_decide_eq_true h
      exact .inr (.inr .intZero)
    | float x => exact .inr (.inr (.floatZero x h))
    | text s =>
      obtain rfl := String.isEmpty_iff.mp h
      exact .inr (.inr .emptyText)
    | bytes b =>
      obtain rfl := List.isEmpty_iff.mp h
      exact .inr (.inr .emptyBytes)
    | list items =>
      obtain rfl := List.isEmpty_iff.mp h
      exact .inr (.inr .emptyList)
    | map es =>
      obtain rfl := List.isEmpty_iff.mp h
      exact .inr (.inl rfl)
    | set members =>
      obtain rfl := List.isEmpty_iff.mp h
      exact .inr (.inr .emptySet)
    | date _ | moment _ | endless => cases h
  · intro h
    obtain rfl | rfl | h := h
    · rfl
    · rfl
    · cases h with
      | floatZero x zero => exact zero
      | _ => rfl

theorem ZeroLike.misplaced (h : ZeroLike d) : Misplaced d := by
  cases h <;> simp [Misplaced]

/-- A value that stands for nothing has its place, or is zero or empty. -/
theorem zeroLike_of_void (void : d.isVoid = true) (misplaced : Misplaced d) : ZeroLike d := by
  rcases isVoid_iff.mp void with rfl | rfl | zero
  · exact absurd rfl misplaced.1
  · exact absurd rfl (misplaced.2 [])
  · exact zero

theorem not_misplaced_map (es : List (Data × Data)) : ¬ Misplaced (.map es) := fun misplaced => misplaced.2 es rfl

theorem Fits.not_misplaced (h : Fits a d) : ¬ Misplaced d := by
  cases h with
  | null => exact fun misplaced => misplaced.1 rfl
  | empty => exact not_misplaced_map []
  | valid es => exact not_misplaced_map es

theorem fillings_void (void : d.isVoid = true) : fillings (d :: ds) = fillings ds := by
  cases d with
  | map es =>
    obtain rfl := List.isEmpty_iff.mp void
    rfl
  | _ => rfl

theorem fillings_map {es : List (Data × Data)} (filled : (Data.map es).isVoid = false) :
    fillings (.map es :: ds) = es :: fillings ds := by
  cases es with
  | nil => cases filled
  | cons => rfl

/-- A value that does not stand for nothing is a mapping with entries, or is misplaced. -/
theorem filled_cases (filled : d.isVoid = false) : (∃ es, d = .map es) ∨ Misplaced d ∧ ¬ ZeroLike d := by
  have zero : ¬ ZeroLike d := by
    intro zero
    rw [isVoid_iff.mpr (.inr (.inr zero))] at filled
    cases filled
  by_cases hm : ∃ es, d = .map es
  · exact .inl hm
  · refine .inr ⟨⟨?_, fun es he => hm ⟨es, he⟩⟩, zero⟩
    rintro rfl
    cases filled

/-- The mapping without entries is a record of each kind. -/
theorem valid_nil (a : Asset) : Valid a [] := by
  cases a <;> exact ⟨_, rfl⟩

theorem mem_fillings {es : List (Data × Data)} : es ∈ fillings ds ↔ .map es ∈ ds ∧ es ≠ [] := by
  unfold fillings
  rw [List.mem_filterMap]
  constructor
  · intro h
    obtain ⟨d, mem, h⟩ := h
    split at h
    · cases h
      exact ⟨mem, List.cons_ne_nil _ _⟩
    · cases h
  · intro h
    obtain ⟨mem, filled⟩ := h
    obtain ⟨e, rest, rfl⟩ := List.exists_cons_of_ne_nil filled
    exact ⟨_, mem, rfl⟩

/-- At most one mapping is a record if each mapping is. -/
theorem valid_flatten_iff (single : ds.length ≤ 1) : Valid a (fillings ds).flatten ↔ ∀ es ∈ fillings ds, Valid a es := by
  have short : (fillings ds).length ≤ 1 := (List.length_filterMap_le _ ds).trans single
  match hf : fillings ds with
  | [] => simpa using valid_nil a
  | [es] => simp
  | _ :: _ :: _ => simp [hf] at short

theorem exists_makes_iff :
    (∃ content, Makes ds a content) ↔ (a = .hosts ∨ ds.length ≤ 1) ∧ ∀ es ∈ fillings ds, Valid a es := by
  cases a with
  | hosts =>
    simp only [Makes, Valid, true_or, true_and, ← exists_forall₂_iff]
    exact ⟨fun ⟨content, makes⟩ => ⟨content.hosts, makes⟩, fun ⟨hs, makes⟩ => ⟨⟨hs⟩, makes⟩⟩
  | agentConfig =>
    simp only [Makes, exists_and_left, reduceCtorEq, false_or]
    exact and_congr_right fun single => valid_flatten_iff (a := .agentConfig) single
  | installConfig =>
    simp only [Makes, exists_and_left, reduceCtorEq, false_or]
    exact and_congr_right fun single => valid_flatten_iff (a := .installConfig) single

theorem fits_or_zeroLike_iff :
    (∀ d ∈ ds, Fits a d ∨ ZeroLike d) ↔ (∀ d ∈ ds, Misplaced d → ZeroLike d) ∧ ∀ es ∈ fillings ds, Valid a es := by
  constructor
  · intro h
    refine ⟨fun d mem misplaced => (h d mem).resolve_left fun fits => fits.not_misplaced misplaced, fun es mem => ?_⟩
    obtain ⟨mem, filled⟩ := mem_fillings.mp mem
    rcases h _ mem with fits | zero
    · cases fits with
      | empty => exact absurd rfl filled
      | valid _ valid => exact valid
    · cases zero
  · intro h d mem
    obtain ⟨zero, valid⟩ := h
    by_cases misplaced : Misplaced d
    · exact .inr (zero d mem misplaced)
    · left
      cases d with
      | null => exact .null
      | map es =>
        rcases eq_or_ne es [] with rfl | filled
        · exact .empty
        · exact .valid es (valid es (mem_fillings.mpr ⟨mem, filled⟩))
      | _ => simp [Misplaced] at misplaced

/-! ## What is read -/

theorem hostDocuments_iff {hs : List Host} :
    HostDocuments ds hs ↔ (∀ d ∈ ds, Misplaced d → ZeroLike d) ∧ Makes ds .hosts ⟨hs⟩ := by
  simp only [Makes]
  induction ds generalizing hs with
  | nil => simp [hostDocuments_nil_iff, fillings]
  | cons d ds ih =>
    rw [List.forall_mem_cons]
    cases hv : d.isVoid with
    | true =>
      rw [hostDocuments_void_iff hv, fillings_void hv, ih, and_iff_right (zeroLike_of_void hv)]
    | false =>
      rw [hostDocuments_filled_iff hv]
      rcases filled_cases hv with ⟨es, rfl⟩ | ⟨misplaced, nonzero⟩
      · rw [and_iff_right (absurd · (not_misplaced_map es)), fillings_map hv, List.forall₂_cons_left_iff]
        constructor
        · intro h
          obtain ⟨_, h, rest, ⟨⟩, rfl, valid, docs⟩ := h
          obtain ⟨zeros, makes⟩ := ih.mp docs
          exact ⟨zeros, h, rest, valid, makes, rfl⟩
        · intro h
          obtain ⟨zeros, h, rest, valid, makes, rfl⟩ := h
          exact ⟨es, h, rest, rfl, rfl, valid, ih.mpr ⟨zeros, makes⟩⟩
      · constructor
        · intro h
          obtain ⟨es, _, _, rfl, _⟩ := h
          exact absurd rfl (misplaced.2 es)
        · intro h
          obtain ⟨⟨zero, _⟩, _⟩ := h
          exact absurd (zero misplaced) nonzero

variable {t : Tree} {env : Environment} {s : Store} {text : List Char} {documents : List Document}

/-- The text of an asset's file, if there is a file with a text. -/
def text? (t : Tree) (env : Environment) (s : Store) (a : Asset) : Option (List Char) :=
  match t.file? (s.pathOf a) with
  | .ok (some (.ok bytes)) => (fileText env bytes).toOption
  | _ => none

theorem hasText_iff : HasText t env s a text ↔ text? t env s a = some text := by
  unfold HasText text?
  match t.file? (s.pathOf a) with
  | .error _ => simp
  | .ok none => simp
  | .ok (some (.error _)) => simp
  | .ok (some (.ok bytes)) => cases hr : fileText env bytes <;> simp [hr, Except.toOption]

theorem HasText.unique {text' : List Char} (h : HasText t env s a text) (h' : HasText t env s a text') : text = text' :=
  Option.some.inj ((hasText_iff.mp h).symm.trans (hasText_iff.mp h'))

section
variable [Room]

/-- The mapping that a value stands for, if it stands for one. -/
theorem mapping_iff_of_value {es : List (Data × Data)} :
    Mapping text es ↔ ∃ d, readOne text = .ok d ∧ (Misplaced d → ZeroLike d) ∧ (fillings [d]).flatten = es := by
  constructor
  · intro h
    cases h with
    | void d reads void =>
      refine ⟨d, reads, zeroLike_of_void void, ?_⟩
      rw [fillings_void void]
      rfl
    | filled es reads filled =>
      refine ⟨.map es, reads, (absurd · (not_misplaced_map es)), ?_⟩
      rw [fillings_map filled]
      exact List.append_nil es
  · intro h
    obtain ⟨d, reads, zero, rfl⟩ := h
    cases hv : d.isVoid with
    | true =>
      rw [fillings_void hv]
      exact .void d reads hv
    | false =>
      rcases filled_cases hv with ⟨es, rfl⟩ | ⟨misplaced, nonzero⟩
      · have entries : (es :: fillings []).flatten = es := List.append_nil es
        rw [fillings_map hv, entries]
        exact .filled es reads hv
      · exact absurd (zero misplaced) nonzero

/-- A text whose documents are well-formed holds a mapping if it has one document at most, and that is a mapping or
stands for nothing. -/
theorem mapping_iff (wellFormed : documentsOf text = (documents, none)) {es : List (Data × Data)} :
    Mapping text es ↔ ∃ ds, Values documents ds ∧ (∀ d ∈ ds, Misplaced d → ZeroLike d) ∧ ds.length ≤ 1 ∧
      (fillings ds).flatten = es := by
  simp only [mapping_iff_of_value, readOne_eq_ok_iff wellFormed]
  constructor
  · intro h
    obtain ⟨d, ⟨rfl, rfl⟩ | ⟨document, rfl, value⟩, zero, rfl⟩ := h
    · exact ⟨[], .nil, nofun, zero_le_one, rfl⟩
    · exact ⟨[d], .cons value .nil, by simpa using zero, le_refl 1, rfl⟩
  · intro h
    obtain ⟨ds, values, zero, single, rfl⟩ := h
    cases values with
    | nil => exact ⟨.null, .inl ⟨rfl, rfl⟩, fun misplaced => absurd rfl misplaced.1, rfl⟩
    | @cons document d _ _ value rest =>
      cases rest with
      | nil => exact ⟨d, .inr ⟨document, rfl, value⟩, zero d (List.mem_singleton_self d), rfl⟩
      | cons => simp at single

/-- What is read in a text whose documents are well-formed. -/
theorem holds_iff (wellFormed : documentsOf text = (documents, none)) {content : a.Content} :
    Holds text a content ↔
      ∃ ds, Values documents ds ∧ (∀ d ∈ ds, Misplaced d → ZeroLike d) ∧ Makes ds a content := by
  constructor
  · intro h
    cases h with
    | agentConfig es c reads valid =>
      obtain ⟨ds, values, zero, single, rfl⟩ := (mapping_iff wellFormed).mp reads
      exact ⟨ds, values, zero, single, valid⟩
    | hosts ds hs reads valid =>
      exact ⟨ds, (readAll_eq_iff wellFormed).mp reads, hostDocuments_iff.mp valid⟩
    | installConfig es c reads valid =>
      obtain ⟨ds, values, zero, single, rfl⟩ := (mapping_iff wellFormed).mp reads
      exact ⟨ds, values, zero, single, valid⟩
  · intro h
    obtain ⟨ds, values, zero, makes⟩ := h
    cases a with
    | agentConfig =>
      exact .agentConfig _ content ((mapping_iff wellFormed).mpr ⟨ds, values, zero, makes.1, rfl⟩) makes.2
    | hosts =>
      exact .hosts ds content.hosts ((readAll_eq_iff wellFormed).mpr values) (hostDocuments_iff.mpr ⟨zero, makes⟩)
    | installConfig =>
      exact .installConfig _ content ((mapping_iff wellFormed).mpr ⟨ds, values, zero, makes.1, rfl⟩) makes.2

/-- What holds something has been read to its end. -/
theorem Holds.not_tooDeep {content : a.Content} (h : Holds text a content) : ¬ TooDeep text := by
  intro deep
  have read : ∃ ds, documentsOf text = (ds, none) := by
    have one {es : List (Data × Data)} (reads : Mapping text es) : ∃ ds, documentsOf text = (ds, none) := by
      obtain ⟨d, reads, _⟩ := mapping_iff_of_value.mp reads
      rw [readOne] at reads
      cases found : documentOf text with
      | error stop =>
        rw [found] at reads
        cases reads
      | ok d => exact ⟨_, documentsOf_of_documentOf found⟩
    cases h with
    | agentConfig es _ reads => exact one reads
    | installConfig es _ reads => exact one reads
    | hosts ds hs reads =>
      rcases found : documentsOf text with ⟨documents, stop⟩
      rw [readAll, found] at reads
      exact ⟨documents, congrArg _ (dataOf_stop reads)⟩
  obtain ⟨ds, read⟩ := read
  cases (congrArg Prod.snd read).symm.trans deep

/-! ## What a load comes to -/

/-- The load is refused with a fault that is expected. -/
def Refused {α : Type} (outcome : Except LoadFault α) : Prop := ∃ f, outcome = .error f ∧ f.reason.isExpected = true

/-- What may not stand in an asset's file: a document that is neither null nor a mapping, or whose value does not fit. -/
def Unfit (a : Asset) (document : Document) : Prop :=
  document.OutOfPlace ∨ ∃ d, document.data = .ok d ∧ ¬ Fits a d

/-- What is promised of the top of a file: each document that may not stand there makes the load refuse the file, and what
is accepted is made of the mappings. -/
structure KeepsTop (documents : List Document) (a : Asset) (outcome : Except LoadFault (Option a.Content)) : Prop where
  refuses : ∀ document ∈ documents, Unfit a document → Refused outcome
  accepts : ∀ content, outcome = .ok (some content) → ∃ ds, Values documents ds ∧ Makes ds a content

/-- Misplaced values are passed over: they are zero or empty, and nothing else is wrong with the file. -/
def PassesOver (documents : List Document) (a : Asset) : Prop :=
  ∃ ds, Values documents ds ∧ (a = .hosts ∨ ds.length ≤ 1) ∧ (∃ d ∈ ds, Misplaced d) ∧ ∀ d ∈ ds, Fits a d ∨ ZeroLike d

/-- An unfit document whose value passes nevertheless has a misplaced value. -/
theorem Unfit.misplaced {document : Document} (h : Unfit a document) (value : document.data = .ok d)
    (fits : Fits a d ∨ ZeroLike d) : Misplaced d := by
  rcases h with out | ⟨d', value', misfit⟩
  · exact out.misplaced value
  · cases value.symm.trans value'
    exact (fits.resolve_left misfit).misplaced

theorem load_some_iff_of_text (new : s.cached a = none) (there : HasText t env s a text) {content : a.Content} :
    (s.load t env a).outcome = .ok (some content) ↔ Holds text a content := by
  rw [load_some_iff, new]
  constructor
  · intro h
    obtain ⟨⟨⟩⟩ | ⟨_, text', there', holds⟩ := h
    exact there.unique there' ▸ holds
  · exact fun holds => .inr ⟨rfl, text, there, holds⟩

theorem escapes_iff_of_text (new : s.cached a = none) (there : HasText t env s a text) :
    Escapes t env s a ↔ Strays text a := by
  constructor
  · intro h
    cases h with
    | unreachable _ f hidden =>
      obtain ⟨_, file, _⟩ := there
      cases file.symm.trans hidden
    | strays _ text' there' strays => exact there.unique there' ▸ strays
  · exact .strays new text there

/-- A file with a text holds something, or else its load is refused or escapes. -/
theorem refused_iff (new : s.cached a = none) (there : HasText t env s a text) :
    Refused (s.load t env a).outcome ↔
      (∀ content, (s.load t env a).outcome ≠ .ok (some content)) ∧ ¬ Strays text a := by
  rw [← escapes_iff_of_text new there, ← load_escapes_iff, Refused]
  cases outcome : (s.load t env a).outcome with
  | ok held =>
    cases held with
    | none =>
      obtain ⟨_, file, _⟩ := there
      cases file.symm.trans (load_none_iff.mp outcome).2
    | some content => simp
  | error f => simp

/-- A well-formed file is accepted if it can be read, each misplaced value is zero or empty and the mappings make
something. -/
theorem load_some_iff_of_wellFormed (new : s.cached a = none) (there : HasText t env s a text)
    (wellFormed : WellFormed text documents) {content : a.Content} :
    (s.load t env a).outcome = .ok (some content) ↔ ¬ TooDeep text ∧
      ∃ ds, Values documents ds ∧ (∀ d ∈ ds, Misplaced d → ZeroLike d) ∧ Makes ds a content := by
  rw [load_some_iff_of_text new there]
  rcases wellFormed.read_or_tooDeep with read | deep
  · have shallow : ¬ TooDeep text := by
      intro deep
      cases (congrArg Prod.snd read).symm.trans deep
    rw [holds_iff read, and_iff_right shallow]
  · exact ⟨fun holds => absurd deep holds.not_tooDeep, fun read => absurd deep read.1⟩

/-- A file that passes a misplaced value over is accepted, where the promise has it refused. -/
theorem PassesOver.breaks (h : PassesOver documents a) (shallow : ¬ TooDeep text) (new : s.cached a = none)
    (there : HasText t env s a text) (wellFormed : WellFormed text documents) :
    ¬ KeepsTop documents a (s.load t env a).outcome := by
  intro keeps
  obtain ⟨ds, values, single, ⟨d, mem, misplaced⟩, fits⟩ := h
  obtain ⟨document, mem, value⟩ := exists_left_of_forall₂ values mem
  obtain ⟨zero, valid⟩ := fits_or_zeroLike_iff.mp fits
  obtain ⟨content, makes⟩ := exists_makes_iff.mpr ⟨single, valid⟩
  have passes := (load_some_iff_of_wellFormed new there wellFormed).mpr ⟨shallow, ds, values, zero, makes⟩
  have unfit : Unfit a document := .inr ⟨d, value, fun fits => fits.not_misplaced misplaced⟩
  obtain ⟨f, fails, _⟩ := keeps.refuses document mem unfit
  cases passes.symm.trans fails

/-- An unfit document in a file that is accepted has been passed over. -/
theorem passesOver_of_unfit (new : s.cached a = none) (there : HasText t env s a text)
    (wellFormed : WellFormed text documents) {content : a.Content}
    (holds : (s.load t env a).outcome = .ok (some content)) {document : Document} (mem : document ∈ documents)
    (unfit : Unfit a document) : PassesOver documents a ∧ ¬ TooDeep text := by
  obtain ⟨shallow, ds, values, zero, makes⟩ := (load_some_iff_of_wellFormed new there wellFormed).mp holds
  obtain ⟨single, valid⟩ := exists_makes_iff.mp ⟨content, makes⟩
  have fits := fits_or_zeroLike_iff.mpr ⟨zero, valid⟩
  obtain ⟨d, mem', value⟩ := exists_right_of_forall₂ values mem
  have misplaced := unfit.misplaced value (fits d mem')
  exact ⟨⟨ds, values, single, ⟨d, mem', misplaced⟩, fits⟩, shallow⟩

/-- What stands at the top of a well-formed file decides what its load comes to: it is accepted if it can be read, each
misplaced value is zero or empty and the mappings make something, and it is refused otherwise, unless it escapes. So the
promise is kept but for the values that are passed over and the files that escape. -/
theorem topLevel_keeps_iff (new : s.cached a = none) (there : HasText t env s a text)
    (wellFormed : WellFormed text documents) :
    (∀ content, (s.load t env a).outcome = .ok (some content) ↔ ¬ TooDeep text ∧
      ∃ ds, Values documents ds ∧ (∀ d ∈ ds, Misplaced d → ZeroLike d) ∧ Makes ds a content) ∧
    (Refused (s.load t env a).outcome ↔
      (∀ content, (s.load t env a).outcome ≠ .ok (some content)) ∧ ¬ Strays text a) ∧
    (KeepsTop documents a (s.load t env a).outcome ↔
      ¬ (PassesOver documents a ∧ ¬ TooDeep text) ∧ ¬ (Strays text a ∧ ∃ document ∈ documents, Unfit a document)) := by
  have refused := refused_iff new there
  refine ⟨fun content => load_some_iff_of_wellFormed new there wellFormed, refused, ?_⟩
  constructor
  · intro keeps
    refine ⟨fun passes => passes.1.breaks passes.2 new there wellFormed keeps, ?_⟩
    intro h
    obtain ⟨strays, document, mem, unfit⟩ := h
    exact (refused.mp (keeps.refuses document mem unfit)).2 strays
  · intro h
    obtain ⟨passes, strays⟩ := h
    refine ⟨fun document mem unfit => refused.mpr ⟨fun content holds => ?_, fun stray => ?_⟩, ?_⟩
    · exact passes (passesOver_of_unfit new there wellFormed holds mem unfit)
    · exact strays ⟨stray, document, mem, unfit⟩
    · intro content holds
      obtain ⟨_, ds, values, _, makes⟩ := (load_some_iff_of_wellFormed new there wellFormed).mp holds
      exact ⟨ds, values, makes⟩

end

/-! ## Two files -/

/-- Nothing is there but the file of an asset. -/
def onlyFile (a : Asset) (text : String) : Tree :=
  ⟨⟨.root, []⟩, [((Path.child ⟨.root, []⟩ a.fileName).parts, .file text.toUTF8.data.toList)]⟩

/-- The names of the hosts that are loaded. -/
def hostNames : Except LoadFault (Option HostList) → List String
  | .ok (some list) => list.hosts.map Host.name
  | _ => []

theorem exists_of_hostNames {outcome : Except LoadFault (Option HostList)} (h : hostNames outcome ≠ []) :
    ∃ content, outcome = .ok (some content) := by
  match outcome with
  | .ok (some content) => exact ⟨content, rfl⟩
  | .ok none | .error _ => exact absurd rfl h

attribute [local instance] Library.plain

/-- Some value of the documents is misplaced. -/
def hasMisplaced (documents : List Document) : Bool :=
  documents.any fun document =>
    match document.data with
    | .ok d => decide (Misplaced d)
    | .error _ => false

theorem hasMisplaced_iff :
    hasMisplaced documents = true ↔ ∃ document ∈ documents, ∃ d, document.data = .ok d ∧ Misplaced d := by
  simp only [hasMisplaced, List.any_eq_true]
  refine exists_congr fun document => and_congr_right fun _ => ?_
  cases document.data <;> simp

/-- Two hosts, with documents around them that say nothing. -/
def spaced : String := "metadata:\n  name: a\n---\n---\n\x7b\x7d\n---\nmetadata:\n  name: b\n"

/-- Four documents make two hosts. -/
theorem topLevel_keeps_spaced :
    (Store.empty ⟨.here, []⟩).cached .hosts = none ∧
      HasText (onlyFile .hosts spaced) .empty (.empty ⟨.here, []⟩) .hosts spaced.toList ∧
      WellFormed spaced.toList (documentsOf spaced.toList).1 ∧ (documentsOf spaced.toList).1.length = 4 ∧
      KeepsTop (documentsOf spaced.toList).1 .hosts
        ((Store.empty ⟨.here, []⟩).load (onlyFile .hosts spaced) .empty .hosts).outcome ∧
      hostNames ((Store.empty ⟨.here, []⟩).load (onlyFile .hosts spaced) .empty .hosts).outcome = ["a", "b"] := by
  have there : HasText (onlyFile .hosts spaced) .empty (.empty ⟨.here, []⟩) .hosts spaced.toList :=
    hasText_iff.mpr (by decide +kernel)
  have wellFormed : WellFormed spaced.toList (documentsOf spaced.toList).1 :=
    ⟨.usual, Prod.ext rfl (by decide +kernel)⟩
  have names : hostNames ((Store.empty ⟨.here, []⟩).load (onlyFile .hosts spaced) .empty .hosts).outcome =
      ["a", "b"] := by
    decide +kernel
  have placed : ¬ hasMisplaced (documentsOf spaced.toList).1 = true := by decide +kernel
  refine ⟨rfl, there, wellFormed, by decide +kernel, ?_, names⟩
  refine (topLevel_keeps_iff rfl there wellFormed).2.2.mpr ⟨?_, ?_⟩
  · intro h
    obtain ⟨⟨ds, values, _, ⟨d, mem, misplaced⟩, _⟩, _⟩ := h
    obtain ⟨document, mem, value⟩ := exists_left_of_forall₂ values mem
    exact placed (hasMisplaced_iff.mpr ⟨document, mem, d, value, misplaced⟩)
  · intro h
    obtain ⟨strays, _⟩ := h
    obtain ⟨f, fails, _⟩ := load_escapes_iff.mpr ((escapes_iff_of_text rfl there).mpr strays)
    obtain ⟨content, passes⟩ := exists_of_hostNames (names ▸ List.cons_ne_nil _ _)
    cases passes.symm.trans fails

/-- An empty list, where a mapping is wanted. -/
def bracketed : String := "[]\n"

/-- An empty list passes as a configuration. -/
theorem emptyList_passes :
    HasText (onlyFile .agentConfig bracketed) .empty (.empty ⟨.here, []⟩) .agentConfig bracketed.toList ∧
      WellFormed bracketed.toList (documentsOf bracketed.toList).1 ∧
      ¬ KeepsTop (documentsOf bracketed.toList).1 .agentConfig
        ((Store.empty ⟨.here, []⟩).load (onlyFile .agentConfig bracketed) .empty .agentConfig).outcome := by
  refine ⟨hasText_iff.mpr (by decide +kernel), ⟨.usual, Prod.ext rfl (by decide +kernel)⟩, ?_⟩
  have out : ∃ document ∈ (documentsOf bracketed.toList).1, document.OutOfPlace := by decide +kernel
  have passes : ((Store.empty ⟨.here, []⟩).load (onlyFile .agentConfig bracketed) .empty .agentConfig).outcome.isOk =
      true := by
    decide +kernel
  intro keeps
  obtain ⟨document, mem, out⟩ := out
  obtain ⟨f, fails, _⟩ := keeps.refuses document mem (.inl out)
  rw [fails] at passes
  cases passes

end InstallWatch.Asset
