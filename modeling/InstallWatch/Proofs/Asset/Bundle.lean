import Mathlib
import InstallWatch.Proofs.Asset.History

/-!
What becomes of all assets of a store, as long as no load ends in a fault that nobody expects. An invariant says how far
the assets have been tried: by the requests made of the store, by the entries of the journal, and by the first fault so
far. One attempt keeps it, so it holds when all assets have been tried, whichever of them failed.
-/

namespace InstallWatch.Asset
open Files

namespace Store

section
variable [Yaml.Room] {t : Tree} {env : Environment} {s : Store} {a : Asset}

/-- The journal is told of a file that is not there, and of no other load. -/
theorem entries_load :
    (s.load t env a).entries = match (s.load t env a).outcome with
      | .ok none => [Journal.debug (a.label ++ " not found at " ++ (s.pathOf a).text)]
      | _ => [] := by
  cases new : s.cached a with
  | some content => rw [load_cached new]
  | none =>
    simp only [load, new]
    cases t.file? (s.pathOf a) with
    | error f => rfl
    | ok there =>
      cases there with
      | none => rfl
      | some contents =>
        dsimp only
        cases ofContents (s.pathOf a).name env contents a <;> rfl

/-- Requests for other assets change nothing that a load looks at. -/
theorem cached_after_of_ne {rs : List Request} (others : ∀ r ∈ rs, r.asset ≠ a) :
    (s.after rs).cached a = s.cached a := by
  induction rs using List.reverseRecOn with
  | nil => rfl
  | append_singleton rs r ih =>
    rw [List.forall_mem_append] at others
    rw [after_append, load_cached_of_ne (others.2 r (List.mem_singleton_self r)), ih others.1]

/-- What is kept is kept through any requests. -/
theorem cached_after_of_cached {rs : List Request} {content : a.Content} (kept : s.cached a = some content) :
    (s.after rs).cached a = some content := by
  induction rs using List.reverseRecOn with
  | nil => exact kept
  | append_singleton rs r ih => rw [after_append, cached_load_of_cached ih]

end

end Store

namespace Bundle
open Store

/-! ## One attempt -/

/-- The fault that a load ends in. -/
def fault? {α : Type} : Except LoadFault α → Option LoadFault
  | .ok _ => none
  | .error f => some f

/-- What a load holds; a load that fails holds nothing. -/
def held {α : Type} : Except LoadFault (Option α) → Option α
  | .ok content => content
  | .error _ => none

theorem mem_all (a : Asset) : a ∈ Asset.all := by
  cases a <;> decide

theorem fault?_eq_none_iff {α : Type} {o : Except LoadFault α} : fault? o = none ↔ ∃ content, o = .ok content := by
  cases o <;> simp [fault?]

theorem fault?_eq_some_iff {α : Type} {o : Except LoadFault α} {f : LoadFault} : fault? o = some f ↔ o = .error f := by
  cases o <;> simp [fault?]

section
variable [Library]

/-- What the journal says of an asset: where it was looked for in vain, or why its load failed. -/
def told (t : Tree) (env : Environment) (s : Store) (a : Asset) : List Journal.Entry :=
  match (s.load t env a).outcome with
  | .ok (some _) => []
  | .ok none => [Journal.debug (a.label ++ " not found at " ++ (s.pathOf a).text)]
  | .error f => [Journal.debug ("failed to load " ++ a.label ++ ": " ++ f.reason.message)]

/-- No load of an asset ends in a fault that nobody expects. -/
def Calm (t : Tree) (env : Environment) (s : Store) : Prop :=
  ∀ a f, (s.load t env a).outcome = .error f → f.reason.isExpected = true

variable {t : Tree} {env : Environment} {s : Store} {p : Progress} {a : Asset}

theorem told_congr {s' : Store} (folder : s'.folder = s.folder) (cached : s'.cached a = s.cached a) :
    told t env s' a = told t env s a := by
  rw [told, told, (load_congr folder cached).2, pathOf, pathOf, folder]

/-- An attempt that is not broken off goes on to the next asset with what its load has left. -/
theorem attempt_eq (calm : ∀ f, (p.store.load t env a).outcome = .error f → f.reason.isExpected = true) :
    attempt t env p a =
      (⟨(p.store.load t env a).store, p.entries ++ told t env p.store a,
        p.first.or (fault? (p.store.load t env a).outcome)⟩, .ok (held (p.store.load t env a).outcome)) := by
  have entries := @entries_load _ t env p.store a
  unfold attempt told
  dsimp only
  cases outcome : (p.store.load t env a).outcome with
  | ok content =>
    rw [outcome] at entries
    cases content <;> simp [entries, fault?, held]
  | error f =>
    rw [outcome] at entries
    simp [entries, calm f outcome, fault?, held]

/-! ## All attempts -/

/-- How far the assets of a store have been tried: these have been, and nothing else has been done. -/
structure Tried (t : Tree) (env : Environment) (s : Store) (done : List Asset) (p : Progress) : Prop where
  store : p.store = s.after (done.map (Request.mk t env))
  entries : p.entries = done.flatMap (told t env s)
  first : p.first = done.findSome? fun a => fault? (s.load t env a).outcome

/-- One more asset is tried as if it were the only one. -/
theorem Tried.attempt {done : List Asset} (h : Tried t env s done p) (calm : Calm t env s) (new : a ∉ done) :
    ∃ q, Bundle.attempt t env p a = (q, .ok (held (s.load t env a).outcome)) ∧ Tried t env s (done ++ [a]) q := by
  have folder : p.store.folder = s.folder := by rw [h.store, folder_after]
  have cached : p.store.cached a = s.cached a := by
    rw [h.store]
    refine cached_after_of_ne fun r hr => ?_
    obtain ⟨b, hb, rfl⟩ := List.mem_map.mp hr
    exact ne_of_mem_of_not_mem hb new
  have outcome : (p.store.load t env a).outcome = (s.load t env a).outcome := (load_congr folder cached).2
  refine ⟨_, (attempt_eq fun f hf => calm a f (outcome ▸ hf)).trans (by rw [outcome]), ?_, ?_, ?_⟩
  · rw [List.map_append, List.map_singleton, after_append, ← h.store]
  · rw [List.flatMap_append, List.flatMap_singleton, ← h.entries, told_congr folder cached]
  · rw [List.findSome?_append, ← h.first]
    simp

/-- All assets are tried, and only then is a fault reported. -/
theorem load_of_calm (calm : Calm t env s) :
    requests t env s = Asset.all.map (Request.mk t env) ∧
    (load t env s).2.1 = Asset.all.flatMap (told t env s) ∧
    (load t env s).2.2 = match Asset.all.findSome? fun a => fault? (s.load t env a).outcome with
      | some f => .error (.failed f)
      | none => .ok ⟨held (s.load t env .agentConfig).outcome, held (s.load t env .hosts).outcome,
          held (s.load t env .installConfig).outcome⟩ := by
  have start : Tried t env s [] ⟨s, [], none⟩ := ⟨rfl, rfl, rfl⟩
  obtain ⟨p₁, h₁, tried₁⟩ := start.attempt (a := .agentConfig) calm (by decide)
  obtain ⟨p₂, h₂, tried₂⟩ := tried₁.attempt (a := .hosts) calm (by decide)
  obtain ⟨p₃, h₃, tried₃⟩ := tried₂.attempt (a := .installConfig) calm (by decide)
  have entries : p₃.entries = Asset.all.flatMap (told t env s) := tried₃.entries
  have first : p₃.first = Asset.all.findSome? fun a => fault? (s.load t env a).outcome := tried₃.first
  rw [← entries, ← first]
  refine ⟨?_, ?_, ?_⟩
  · simp only [requests, Asset.all, tried, h₁, h₂, h₃]
    rfl
  · simp only [load, h₁, h₂, h₃]
    cases p₃.first <;> rfl
  · simp only [load, h₁, h₂, h₃]
    cases p₃.first <;> rfl

/-! ## Afterwards -/

/-- An asset that is tried once is kept as its own load leaves it. -/
theorem cached_after_iff_of_nodup {as : List Asset} (once : as.Nodup) (mem : a ∈ as) {content : a.Content} :
    (s.after (as.map (Request.mk t env))).cached a = some content ↔ (s.load t env a).outcome = .ok (some content) := by
  obtain ⟨before, behind, rfl⟩ := List.append_of_mem mem
  have others : ∀ bs : List Asset, a ∉ bs → ∀ r ∈ bs.map (Request.mk t env), r.asset ≠ a := by
    intro bs new r hr
    obtain ⟨b, hb, rfl⟩ := List.mem_map.mp hr
    exact ne_of_mem_of_not_mem hb new
  have new : a ∉ before ∧ a ∉ behind := by
    simpa [and_assoc] using (List.nodup_middle.mp once).notMem
  have split : s.after ((before ++ a :: behind).map (Request.mk t env)) =
      ((s.after (before.map (Request.mk t env))).load t env a).store.after (behind.map (Request.mk t env)) := by
    simp [after]
  have same : ((s.after (before.map (Request.mk t env))).load t env a).outcome = (s.load t env a).outcome :=
    (load_congr (folder_after s _) (cached_after_of_ne (others before new.1))).2
  rw [split, cached_after_of_ne (others behind new.2), cached_load_iff, same]

/-- Loading all assets looks at the files of those that are not kept, and at nothing else of the files and the
variables. -/
theorem load_eq_of_same {t' : Tree} {env' : Environment}
    (same : ∀ a, s.cached a = none → (empty s.folder).load t' env' a = (empty s.folder).load t env a) :
    load t' env' s = load t env s := by
  have step : ∀ p a, (∃ rs, p.store = s.after rs) →
      attempt t' env' p a = attempt t env p a ∧ ∃ rs, (attempt t env p a).1.store = s.after rs := by
    rintro p a ⟨rs, hp⟩
    have loads : p.store.load t' env' a = p.store.load t env a := by
      cases kept : p.store.cached a with
      | some content => rw [load_cached kept, load_cached kept]
      | none =>
        have new : s.cached a = none := by
          rw [hp] at kept
          by_contra old
          obtain ⟨content, old⟩ := Option.ne_none_iff_exists'.mp old
          rw [cached_after_of_cached old] at kept
          cases kept
        rw [load_of_new kept, load_of_new kept, hp, folder_after, same a new]
    refine ⟨by rw [attempt, attempt, loads], rs ++ [⟨t, env, a⟩], ?_⟩
    rw [attempt_store, hp, after_append]
  obtain ⟨first, made₁⟩ := step ⟨s, [], none⟩ .agentConfig ⟨[], rfl⟩
  rcases h₁ : attempt t env ⟨s, [], none⟩ .agentConfig with ⟨p₁, f | agentConfig⟩
  · simp only [load, first, h₁]
  obtain ⟨second, made₂⟩ := step p₁ .hosts (by simpa only [h₁] using made₁)
  rcases h₂ : attempt t env p₁ .hosts with ⟨p₂, f | hosts⟩
  · simp only [load, first, second, h₁, h₂]
  obtain ⟨third, -⟩ := step p₂ .installConfig (by simpa only [h₂] using made₂)
  simp only [load, first, second, third, h₁, h₂]

/-! ## What the load of all assets owes -/

/-- This fault is that of the first asset whose load fails. -/
def FailsFirst (t : Tree) (env : Environment) (s : Store) (f : LoadFault) : Prop :=
  ∃ before a behind, Asset.all = before ++ a :: behind ∧
    (∀ b ∈ before, ∃ content, (s.load t env b).outcome = .ok content) ∧ (s.load t env a).outcome = .error f

/-- What the load of all assets owes, by what a load of each of them alone would come to. -/
structure Accounts (t : Tree) (env : Environment) (s : Store) : Prop where
  /-- Every asset is tried, in their order. -/
  tried : requests t env s = Asset.all.map (Request.mk t env)
  journal : (load t env s).2.1 = Asset.all.flatMap (told t env s)
  succeeds : ∀ b, (load t env s).2.2 = .ok b ↔ ∀ a, (s.load t env a).outcome = .ok (b.content a)
  /-- Success and failure are told apart by whether some load fails. -/
  fails : (∃ b, (load t env s).2.2 = .ok b) ∨ ∃ f, (load t env s).2.2 = .error (.failed f)
  cause : ∀ f, (load t env s).2.2 = .error (.failed f) ↔ FailsFirst t env s f
  /-- What was loaded is kept, whatever failed beside it. -/
  kept : ∀ a content, (load t env s).1.cached a = some content ↔ (s.load t env a).outcome = .ok (some content)
  /-- Later on, an asset that failed or was not there is loaded as from a new store. -/
  afresh : ∀ a, (∀ content, (s.load t env a).outcome ≠ .ok (some content)) → ∀ t' env',
    ((load t env s).1.load t' env' a).outcome = ((empty s.folder).load t' env' a).outcome
  /-- Nothing but such assets is read again, whatever the files and the variables are by then. -/
  again : ∀ t₁ env₁ t₂ env₂, (∀ a, (∀ content, (s.load t env a).outcome ≠ .ok (some content)) →
      (empty s.folder).load t₁ env₁ a = (empty s.folder).load t₂ env₂ a) →
    load t₁ env₁ (load t env s).1 = load t₂ env₂ (load t env s).1

theorem first_eq_some_iff {f : LoadFault} :
    (Asset.all.findSome? fun a => fault? (s.load t env a).outcome) = some f ↔ FailsFirst t env s f := by
  simp only [List.findSome?_eq_some_iff, fault?_eq_some_iff, fault?_eq_none_iff, FailsFirst]
  constructor
  · intro h
    obtain ⟨before, a, behind, split, fails, well⟩ := h
    exact ⟨before, a, behind, split, well, fails⟩
  · intro h
    obtain ⟨before, a, behind, split, well, fails⟩ := h
    exact ⟨before, a, behind, split, fails, well⟩

/-- If every load of an asset ends as it should, so does the load of all assets: all are tried and told of, the bundle is
what the loads hold if none fails, and otherwise the first fault is the cause; and what was loaded is kept, so that only
the other assets are read again. -/
theorem accounts_of_calm (t : Tree) (env : Environment) (s : Store) (calm : Calm t env s) : Accounts t env s := by
  obtain ⟨tried, journal, result⟩ := load_of_calm calm
  have after : (load t env s).1 = s.after (Asset.all.map (Request.mk t env)) := by rw [load_store, tried]
  have kept : ∀ a content, (load t env s).1.cached a = some content ↔
      (s.load t env a).outcome = .ok (some content) := by
    intro a content
    rw [after]
    exact cached_after_iff_of_nodup (by decide) (mem_all a)
  have folder : (load t env s).1.folder = s.folder := by rw [after, folder_after]
  have unkept : ∀ a, (load t env s).1.cached a = none ↔
      ∀ content, (s.load t env a).outcome ≠ .ok (some content) := by
    intro a
    simp only [Option.eq_none_iff_forall_ne_some, ne_eq, kept]
  refine ⟨tried, journal, ?_, ?_, ?_, kept, ?_, ?_⟩
  · intro b
    refine ⟨fun loaded => load_content loaded, fun loaded => ?_⟩
    have none : (Asset.all.findSome? fun a => fault? (s.load t env a).outcome) = none :=
      List.findSome?_eq_none_iff.mpr fun a _ => fault?_eq_none_iff.mpr ⟨_, loaded a⟩
    rw [result, none, loaded .agentConfig, loaded .hosts, loaded .installConfig]
    rfl
  · rw [result]
    cases Asset.all.findSome? fun a => fault? (s.load t env a).outcome with
    | none => exact .inl ⟨_, rfl⟩
    | some f => exact .inr ⟨f, rfl⟩
  · intro f
    rw [← first_eq_some_iff, result]
    cases Asset.all.findSome? fun a => fault? (s.load t env a).outcome <;> simp
  · intro a unloaded t' env'
    rw [load_of_new ((unkept a).mpr unloaded), folder]
  · intro t₁ env₁ t₂ env₂ same
    refine load_eq_of_same fun a new => ?_
    rw [folder]
    exact same a ((unkept a).mp new)

theorem calm_iff : Calm t env s ↔
    ∀ a ∈ Asset.all, ((fault? (s.load t env a).outcome).all fun f => f.reason.isExpected) = true := by
  constructor
  · intro calm a _
    cases outcome : (s.load t env a).outcome with
    | ok content => rfl
    | error f => exact calm a f outcome
  · intro expected a f outcome
    simpa [outcome, fault?] using expected a (mem_all a)

end

attribute [local instance] Library.plain

/-- A configuration that pins a list, and hosts that are in order. -/
def mixed : Tree :=
  ⟨⟨.root, []⟩, [(["agent-config.yaml"], .file "rendezvousIP: [10.0.0.5]\n".toUTF8.data.toList),
    (["cluster-manifests", "nmstateconfig.yaml"], .file "metadata:\n  name: a\n".toUTF8.data.toList)]⟩

/-- The hosts are kept although the configuration before them failed, and the missing configuration behind them is
looked for. -/
theorem accounts_of_calm_mixed :
    Calm mixed .empty (.empty ⟨.here, []⟩) ∧ Accounts mixed .empty (.empty ⟨.here, []⟩) ∧
      (∃ f, f.asset = .agentConfig ∧ (load mixed .empty (.empty ⟨.here, []⟩)).2.2 = .error (.failed f)) ∧
      (load mixed .empty (.empty ⟨.here, []⟩)).2.1.map Journal.Entry.message =
        ["failed to load Agent Config: 1 validation error for AgentConfig",
          "Install Config not found at install-config.yaml"] ∧
      (load mixed .empty (.empty ⟨.here, []⟩)).1.cachedLabels = ["Agent Manifests"] := by
  have calm : Calm mixed .empty (.empty ⟨.here, []⟩) := calm_iff.mpr (by decide +kernel)
  have accounts := accounts_of_calm mixed .empty (.empty ⟨.here, []⟩) calm
  have fails : ((fault? ((Store.empty ⟨.here, []⟩).load mixed .empty .agentConfig).outcome).any
      fun f => f.asset = .agentConfig) = true := by
    decide +kernel
  obtain ⟨f, first, asset⟩ := (Option.any_eq_true _ _).mp fails
  refine ⟨calm, accounts, ⟨f, of_decide_eq_true asset, ?_⟩, by decide +kernel, by decide +kernel⟩
  exact (accounts.cause f).mpr ⟨[], .agentConfig, [.hosts, .installConfig], rfl, by simp, fault?_eq_some_iff.mp first⟩

end Bundle

end InstallWatch.Asset
