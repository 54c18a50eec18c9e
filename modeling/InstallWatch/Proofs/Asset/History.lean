import Mathlib
import InstallWatch.Proofs.Asset.Loading
import InstallWatch.Proofs.Files.LongPath

/-!
What a store remembers. Files and variables may change between loads as they like: the first load of an asset that
finds something settles what every later one answers, and until then a load answers what the files say at the time. The
laws are stated for every sequence of requests, each with the files and the variables it meets; the loads of a history,
those inside the load of all assets included, are such a sequence.
-/

namespace InstallWatch.Asset
open Files

/-- Someone asks for an asset, with the files and the variables as they are then. -/
structure Request where
  tree : Tree
  environment : Environment
  asset : Asset

/-- What the files say of an asset: nothing where no file is, what it holds, or why it cannot be read. -/
def promised [Yaml.Room] (t : Tree) (env : Environment) (folder : Path) (a : Asset) :
    Except LoadFault (Option a.Content) :=
  let path := folder.child a.fileName
  match t.file? path with
  | .ok (some contents) => ((ofContents path.name env contents a).map some).mapError (LoadFault.mk a path)
  | _ => .ok none

/-- The path of an asset's file can be followed, whether or not there is a file. -/
def Followed (t : Tree) (folder : Path) (a : Asset) : Prop := ∃ found, t.file? (folder.child a.fileName) = .ok found

namespace Store

section
variable [Yaml.Room]

/-- The store after some requests. -/
def after (s : Store) (rs : List Request) : Store :=
  rs.foldl (fun s r => (s.load r.tree r.environment r.asset).store) s

/-- One of the requests was answered with an object. -/
def Returned (s : Store) (rs : List Request) (a : Asset) (content : a.Content) : Prop :=
  ∃ earlier t env later, rs = earlier ++ ⟨t, env, a⟩ :: later ∧
    ((s.after earlier).load t env a).outcome = .ok (some content)

/-- All that a load can come to. -/
inductive Comes (t : Tree) (env : Environment) (s : Store) (a : Asset) : Loaded a → Prop where
  | kept (content : a.Content) (kept : s.cached a = some content) : Comes t env s a ⟨s, [], .ok (some content)⟩
  | found (content : a.Content) (new : s.cached a = none) (followed : Followed t s.folder a)
      (found : promised t env s.folder a = .ok (some content)) :
      Comes t env s a ⟨s.keep a content, [], .ok (some content)⟩
  | nothing (entries : List Journal.Entry) (new : s.cached a = none) (followed : Followed t s.folder a)
      (nothing : ∀ content, promised t env s.folder a ≠ .ok (some content)) :
      Comes t env s a ⟨s, entries, promised t env s.folder a⟩
  | hidden (f : Files.Fault) (new : s.cached a = none) (hidden : t.file? (s.pathOf a) = .error f) :
      Comes t env s a ⟨s, [], .error ⟨a, s.pathOf a, .unreachable f⟩⟩

theorem promised_of_absent {t : Tree} {env : Environment} {s : Store} {a : Asset}
    (h : t.file? (s.pathOf a) = .ok none) : promised t env s.folder a = .ok none := by
  rw [pathOf] at h
  simp only [promised, h]

theorem promised_of_file {t : Tree} {env : Environment} {s : Store} {a : Asset} {contents : Contents}
    (h : t.file? (s.pathOf a) = .ok (some contents)) :
    promised t env s.folder a =
      ((ofContents (s.pathOf a).name env contents a).map some).mapError (LoadFault.mk a (s.pathOf a)) := by
  rw [pathOf] at h
  simp only [promised, h, pathOf]

theorem load_comes (t : Tree) (env : Environment) (s : Store) (a : Asset) : Comes t env s a (s.load t env a) := by
  cases hc : s.cached a with
  | some content =>
    rw [load_cached hc]
    exact .kept content hc
  | none =>
    cases hf : t.file? (s.pathOf a) with
    | error f =>
      rw [load_hidden hc hf]
      exact .hidden f hc hf
    | ok there =>
      have followed : Followed t s.folder a := ⟨there, hf⟩
      cases there with
      | none =>
        have said : promised t env s.folder a = .ok none := promised_of_absent hf
        rw [load_absent hc hf, ← said]
        exact .nothing _ hc followed (by simp [said])
      | some contents =>
        have said : promised t env s.folder a = _ := promised_of_file hf
        cases hr : ofContents (s.pathOf a).name env contents a with
        | error reason =>
          have outcome : promised t env s.folder a = .error ⟨a, s.pathOf a, reason⟩ := by
            simp [said, hr, Except.map, Except.mapError]
          simp only [load, hc, hf, hr, ← outcome]
          exact .nothing _ hc followed (by simp [outcome])
        | ok content =>
          have outcome : promised t env s.folder a = .ok (some content) := by
            simp [said, hr, Except.map, Except.mapError]
          simp only [load, hc, hf, hr]
          exact .found content hc followed outcome

section
variable {s : Store} {t : Tree} {env : Environment} {a : Asset}

/-- An object that is returned is kept, and one that is kept is returned. -/
theorem cached_load_iff {content : a.Content} :
    (s.load t env a).store.cached a = some content ↔ (s.load t env a).outcome = .ok (some content) := by
  have comes := load_comes t env s a
  generalize s.load t env a = loaded at comes
  cases comes with
  | kept c kept => simp [kept]
  | found c new followed found => simp [cached_keep_self]
  | nothing entries new followed nothing => simp [new, nothing content]
  | hidden f new hidden => simp [new]

theorem cached_load_of_cached {b : Asset} {content : b.Content} (h : s.cached b = some content) :
    (s.load t env a).store.cached b = some content := by
  by_cases hab : a = b
  · subst hab
    rw [load_cached h]
    exact h
  · rw [load_cached_of_ne hab, h]

/-- An object that was not kept before was found in the file. -/
theorem promised_of_new {content : a.Content} (new : s.cached a = none)
    (h : (s.load t env a).outcome = .ok (some content)) : promised t env s.folder a = .ok (some content) := by
  have comes := load_comes t env s a
  generalize s.load t env a = loaded at comes h
  cases comes with
  | kept c kept =>
    rw [new] at kept
    cases kept
  | found c _ followed found =>
    cases h
    exact found
  | nothing entries _ followed nothing => exact absurd h (nothing content)
  | hidden f _ hidden => cases h

/-- A load that returns no object leaves the store as it is. -/
theorem store_load_of_nothing (h : ∀ content, (s.load t env a).outcome ≠ .ok (some content)) :
    (s.load t env a).store = s := by
  have comes := load_comes t env s a
  generalize s.load t env a = loaded at comes h
  cases comes with
  | kept c kept => rfl
  | found c new followed found => exact absurd rfl (h c)
  | nothing entries new followed nothing => rfl
  | hidden f new hidden => rfl

/-- An asset that is not kept is answered as the files say it, if the path of its file can be followed. -/
theorem outcome_load_iff (new : s.cached a = none) :
    (s.load t env a).outcome = promised t env s.folder a ↔ Followed t s.folder a := by
  have comes := load_comes t env s a
  generalize s.load t env a = loaded at comes
  cases comes with
  | kept c kept =>
    rw [new] at kept
    cases kept
  | found c _ followed found => exact iff_of_true found.symm followed
  | nothing entries _ followed nothing => exact iff_of_true rfl followed
  | hidden f _ hidden =>
    have hidden' : t.file? (s.folder.child a.fileName) = .error f := hidden
    refine iff_of_false ?_ ?_
    · simp [promised, hidden']
    · simp [Followed, hidden']

end

/-! ## Requests one after the other -/

theorem after_append (s : Store) (rs : List Request) (r : Request) :
    s.after (rs ++ [r]) = ((s.after rs).load r.tree r.environment r.asset).store := by
  simp [after]

theorem folder_after (s : Store) (rs : List Request) : (s.after rs).folder = s.folder := by
  induction rs using List.reverseRecOn with
  | nil => rfl
  | append_singleton rs r ih => rw [after_append, load_folder, ih]

theorem returned_append_iff {s : Store} {rs : List Request} {t : Tree} {env : Environment} {b a : Asset}
    {content : a.Content} :
    Returned s (rs ++ [⟨t, env, b⟩]) a content ↔
      Returned s rs a content ∨ b = a ∧ ((s.after rs).load t env a).outcome = .ok (some content) := by
  constructor
  · rintro ⟨earlier, t', env', later, hs, answer⟩
    rcases List.eq_nil_or_concat later with rfl | ⟨later, r, rfl⟩
    · obtain ⟨rfl, hr⟩ := List.append_inj' hs rfl
      cases hr
      exact .inr ⟨rfl, answer⟩
    · have hs' : rs ++ [⟨t, env, b⟩] = (earlier ++ ⟨t', env', a⟩ :: later) ++ [r] := by simpa using hs
      obtain ⟨hs, _⟩ := List.append_inj' hs' rfl
      exact .inl ⟨earlier, t', env', later, hs, answer⟩
  · rintro (⟨earlier, t', env', later, rfl, answer⟩ | ⟨rfl, answer⟩)
    · exact ⟨earlier, t', env', later ++ [⟨t, env, b⟩], by simp, answer⟩
    · exact ⟨rs, t, env, [], rfl, answer⟩

/-- A new store keeps what its loads returned, and nothing else. -/
theorem cached_after_iff {s : Store} (new : ∀ a, s.cached a = none) (rs : List Request) (a : Asset)
    (content : a.Content) : (s.after rs).cached a = some content ↔ Returned s rs a content := by
  induction rs using List.reverseRecOn with
  | nil => simp [after, new, Returned]
  | append_singleton rs r ih =>
    obtain ⟨t, env, b⟩ := r
    rw [after_append, returned_append_iff, ← ih]
    dsimp only
    by_cases hab : b = a
    · subst hab
      rw [cached_load_iff]
      constructor
      · exact fun h => .inr ⟨rfl, h⟩
      · rintro (h | ⟨_, h⟩)
        · rw [load_cached h]
        · exact h
    · simp [load_cached_of_ne hab, hab]

theorem cached_after_eq_none_iff {s : Store} (new : ∀ a, s.cached a = none) (rs : List Request) (a : Asset) :
    (s.after rs).cached a = none ↔ ∀ content, ¬ Returned s rs a content := by
  simp only [← cached_after_iff new, Option.eq_none_iff_forall_ne_some, ne_eq]

/-- What a new store keeps is what its first load that found something found. -/
theorem origin_of_cached {s : Store} (new : ∀ a, s.cached a = none) {rs : List Request} {a : Asset}
    {content : a.Content} (h : (s.after rs).cached a = some content) :
    ∃ earlier t env later, rs = earlier ++ ⟨t, env, a⟩ :: later ∧ (∀ c, ¬ Returned s earlier a c) ∧
      promised t env s.folder a = .ok (some content) := by
  induction rs using List.reverseRecOn with
  | nil =>
    rw [show s.after [] = s from rfl, new] at h
    cases h
  | append_singleton rs r ih =>
    obtain ⟨t, env, b⟩ := r
    -- the last request found it, or it was there before
    cases hc : (s.after rs).cached a with
    | some kept =>
      rw [after_append, cached_load_of_cached hc] at h
      obtain ⟨earlier, t', env', later, rfl, first, found⟩ := ih (hc.trans h)
      exact ⟨earlier, t', env', later ++ [⟨t, env, b⟩], by simp, first, found⟩
    | none =>
      rw [after_append] at h
      by_cases hab : b = a
      · subst hab
        have found := promised_of_new hc (cached_load_iff.mp h)
        rw [folder_after] at found
        exact ⟨rs, t, env, [], rfl, (cached_after_eq_none_iff new rs b).mp hc, found⟩
      · rw [load_cached_of_ne hab, hc] at h
        cases h

/-- The store with what a load returned, if that is an object. -/
def keeping (s : Store) (a : Asset) : Except LoadFault (Option a.Content) → Store
  | .ok (some content) => s.keep a content
  | _ => s

/-- An asset that is not kept is loaded as from a new store. -/
theorem load_of_new {s : Store} {t : Tree} {env : Environment} {a : Asset} (new : s.cached a = none) :
    s.load t env a =
      ⟨s.keeping a ((empty s.folder).load t env a).outcome, ((empty s.folder).load t env a).entries,
        ((empty s.folder).load t env a).outcome⟩ := by
  have unread : (empty s.folder).cached a = none := rfl
  have path : (empty s.folder).pathOf a = s.pathOf a := rfl
  simp only [load, new, unread, path]
  cases t.file? (s.pathOf a) with
  | error f => rfl
  | ok there =>
    cases there with
    | none => rfl
    | some contents =>
      dsimp only
      cases ofContents (s.pathOf a).name env contents a <;> rfl

/-- A load looks at its folder and at what is kept of its asset, and at nothing else in the store. -/
theorem load_congr {s s' : Store} {t : Tree} {env : Environment} {a : Asset} (folder : s'.folder = s.folder)
    (cached : s'.cached a = s.cached a) :
    (s'.load t env a).entries = (s.load t env a).entries ∧ (s'.load t env a).outcome = (s.load t env a).outcome := by
  cases kept : s.cached a with
  | some content =>
    rw [load_cached kept, load_cached (cached.trans kept)]
    exact ⟨rfl, rfl⟩
  | none =>
    rw [load_of_new kept, load_of_new (cached.trans kept), folder]
    exact ⟨rfl, rfl⟩

/-- A load of one asset changes no answer about another one. -/
theorem outcome_load_of_ne {s : Store} {t : Tree} {env : Environment} {a b : Asset} (h : a ≠ b) :
    ((s.load t env a).store.load t env b).outcome = (s.load t env b).outcome :=
  (load_congr load_folder (load_cached_of_ne h)).2

end

end Store

/-! ## All assets -/

namespace Bundle
open Store

/-- What the bundle holds of an asset. -/
def content (b : Bundle) : (a : Asset) → Option a.Content
  | .agentConfig => b.agentConfig
  | .hosts => b.hosts
  | .installConfig => b.installConfig

/-- What the load of one more asset adds to the first fault so far: a fault that is expected counts if it is the first,
and any other one ends the loading. -/
def settle {α : Type} (first : Option LoadFault) :
    Except LoadFault (Option α) → Except LoadFault (Option LoadFault × Option α)
  | .ok content => .ok (first, content)
  | .error f => if f.reason.isExpected then .ok (first.or (some f), none) else .error f

/-- What loading all assets comes to, given what loading each of them does. -/
def gather (agentConfig : Except LoadFault (Option AgentConfig)) (hosts : Except LoadFault (Option HostList))
    (installConfig : Except LoadFault (Option InstallConfig)) : Except BundleFault Bundle :=
  match settle none agentConfig with
  | .error f => .error (.unexpected f)
  | .ok (first, agentConfig) => match settle first hosts with
    | .error f => .error (.unexpected f)
    | .ok (first, hosts) => match settle first installConfig with
      | .error f => .error (.unexpected f)
      | .ok (some f, _) => .error (.failed f)
      | .ok (none, installConfig) => .ok ⟨agentConfig, hosts, installConfig⟩

/-- As long as no asset has failed, what counts is what was loaded. -/
theorem settle_eq_ok_none {α : Type} {first : Option LoadFault} {o : Except LoadFault (Option α)} {content : Option α}
    (h : settle first o = .ok (none, content)) : first = none ∧ o = .ok content := by
  cases o with
  | ok c =>
    cases h
    exact ⟨rfl, rfl⟩
  | error f =>
    rw [settle] at h
    split at h
    · cases first <;> cases h
    · cases h

theorem gather_eq_ok {agentConfig : Except LoadFault (Option AgentConfig)} {hosts : Except LoadFault (Option HostList)}
    {installConfig : Except LoadFault (Option InstallConfig)} {b : Bundle}
    (h : gather agentConfig hosts installConfig = .ok b) :
    agentConfig = .ok b.agentConfig ∧ hosts = .ok b.hosts ∧ installConfig = .ok b.installConfig := by
  unfold gather at h
  split at h
  · cases h
  · rename_i settled₁
    split at h
    · cases h
    · rename_i settled₂
      split at h
      · cases h
      · cases h
      · rename_i settled₃
        cases h
        obtain ⟨rfl, third⟩ := settle_eq_ok_none settled₃
        obtain ⟨rfl, second⟩ := settle_eq_ok_none settled₂
        exact ⟨(settle_eq_ok_none settled₁).2, second, third⟩

variable [Library]

/-- The requests made while assets are tried, up to the first one whose fault nobody expects. -/
def tried (t : Tree) (env : Environment) : Progress → List Asset → List Request
  | _, [] => []
  | p, a :: as => ⟨t, env, a⟩ :: match attempt t env p a with
    | (q, .ok _) => tried t env q as
    | (_, .error _) => []

/-- The requests made while a bundle is loaded. -/
def requests (t : Tree) (env : Environment) (s : Store) : List Request := tried t env ⟨s, [], none⟩ Asset.all

theorem attempt_store (t : Tree) (env : Environment) (p : Progress) (a : Asset) :
    (attempt t env p a).1.store = (p.store.load t env a).store := by
  unfold attempt
  dsimp only
  split
  · rfl
  · split <;> rfl

/-- Loading a bundle changes the store by the requests it makes. -/
theorem load_store (t : Tree) (env : Environment) (s : Store) : (load t env s).1 = s.after (requests t env s) := by
  have first := attempt_store t env ⟨s, [], none⟩ .agentConfig
  rcases h₁ : attempt t env ⟨s, [], none⟩ .agentConfig with ⟨p₁, f | agentConfig⟩
  · simpa [load, requests, Asset.all, tried, h₁, after] using first
  have second := attempt_store t env p₁ .hosts
  rw [h₁] at first
  rcases h₂ : attempt t env p₁ .hosts with ⟨p₂, f | hosts⟩
  · simpa [load, requests, Asset.all, tried, h₁, h₂, after, ← first] using second
  have third := attempt_store t env p₂ .installConfig
  rw [h₂] at second
  have last : (load t env s).1 = (attempt t env p₂ .installConfig).1.store := by
    rcases h₃ : attempt t env p₂ .installConfig with ⟨p₃, f | installConfig⟩
    · simp only [load, h₁, h₂, h₃]
    · simp only [load, h₁, h₂, h₃]
      cases p₃.first <;> rfl
  have made : requests t env s = [⟨t, env, .agentConfig⟩, ⟨t, env, .hosts⟩, ⟨t, env, .installConfig⟩] := by
    rcases h₃ : attempt t env p₂ .installConfig with ⟨p₃, f | installConfig⟩ <;>
      simp [requests, Asset.all, tried, h₁, h₂, h₃]
  rw [last, third, made, second, first]
  rfl

theorem settle_load (t : Tree) (env : Environment) (p : Progress) (a : Asset) :
    settle p.first (p.store.load t env a).outcome = match attempt t env p a with
      | (q, .ok content) => .ok (q.first, content)
      | (_, .error f) => .error f := by
  unfold attempt settle
  dsimp only
  cases (p.store.load t env a).outcome with
  | ok content => rfl
  | error f =>
    dsimp only
    split <;> rfl

/-- Each asset is loaded as it would be alone. -/
theorem outcome_load (t : Tree) (env : Environment) (s : Store) :
    (load t env s).2.2 = gather (s.load t env .agentConfig).outcome (s.load t env .hosts).outcome
      (s.load t env .installConfig).outcome := by
  have first := attempt_store t env ⟨s, [], none⟩ .agentConfig
  have settled₁ := settle_load t env ⟨s, [], none⟩ .agentConfig
  rcases h₁ : attempt t env ⟨s, [], none⟩ .agentConfig with ⟨p₁, f | agentConfig⟩
  · rw [h₁] at settled₁
    simp only [load, h₁, gather, settled₁]
  rw [h₁] at first settled₁
  have second := attempt_store t env p₁ .hosts
  have settled₂ := settle_load t env p₁ .hosts
  rw [first, outcome_load_of_ne (by decide)] at settled₂
  rcases h₂ : attempt t env p₁ .hosts with ⟨p₂, f | hosts⟩
  · rw [h₂] at settled₂
    simp only [load, h₁, h₂, gather, settled₁, settled₂]
  rw [h₂] at second settled₂
  have settled₃ := settle_load t env p₂ .installConfig
  rw [second, outcome_load_of_ne (by decide), first, outcome_load_of_ne (by decide)] at settled₃
  rcases h₃ : attempt t env p₂ .installConfig with ⟨p₃, f | installConfig⟩
  · rw [h₃] at settled₃
    simp only [load, h₁, h₂, h₃, gather, settled₁, settled₂, settled₃]
  rw [h₃] at settled₃
  simp only [load, h₁, h₂, h₃, gather, settled₁, settled₂, settled₃]
  cases p₃.first <;> rfl

/-- What a bundle holds of an asset is what a load of this asset alone returns. -/
theorem load_content {t : Tree} {env : Environment} {s : Store} {b : Bundle} (h : (load t env s).2.2 = .ok b)
    (a : Asset) : (s.load t env a).outcome = .ok (b.content a) := by
  rw [outcome_load] at h
  obtain ⟨agentConfig, hosts, installConfig⟩ := gather_eq_ok h
  cases a with
  | agentConfig => exact agentConfig
  | hosts => exact hosts
  | installConfig => exact installConfig

end Bundle

/-! ## Histories -/

/-- A store among the files and the variables it meets. -/
structure Shelf where
  tree : Tree
  environment : Environment
  store : Store

/-- What can happen to a shelf. -/
inductive Step where
  | put (p : Path) (i : Item)
  | remove (p : Path)
  | setEnvironment (env : Environment)
  | load (a : Asset)
  | loadAll

theorem label_injective {a b : Asset} (h : a.label = b.label) : a = b := by
  cases a <;> cases b <;> first | rfl | exact absurd h (by decide)

section
variable [Library]

namespace Shelf

def step (s : Shelf) : Step → Shelf
  | .put p i => { s with tree := s.tree.put p i }
  | .remove p => { s with tree := s.tree.remove p }
  | .setEnvironment env => { s with environment := env }
  | .load a => { s with store := (s.store.load s.tree s.environment a).store }
  | .loadAll => { s with store := (Bundle.load s.tree s.environment s.store).1 }

def steps (s : Shelf) (xs : List Step) : Shelf := xs.foldl step s

/-- The requests that a step makes. -/
def requests (s : Shelf) : Step → List Request
  | .load a => [⟨s.tree, s.environment, a⟩]
  | .loadAll => Bundle.requests s.tree s.environment s.store
  | _ => []

/-- The requests that a history makes, one after the other. -/
def requestsIn (s : Shelf) : List Step → List Request
  | [] => []
  | x :: xs => s.requests x ++ (s.step x).requestsIn xs

theorem store_step (s : Shelf) (x : Step) : (s.step x).store = s.store.after (s.requests x) := by
  cases x with
  | loadAll => exact Bundle.load_store s.tree s.environment s.store
  | _ => rfl

/-- The files and the variables matter to a store by the requests only. -/
theorem store_steps (s : Shelf) (xs : List Step) : (s.steps xs).store = s.store.after (s.requestsIn xs) := by
  induction xs generalizing s with
  | nil => rfl
  | cons x xs ih =>
    rw [show s.steps (x :: xs) = (s.step x).steps xs from rfl, ih, store_step, requestsIn]
    simp [Store.after]

end Shelf

/-- What a new store owes after some requests, whatever the files and the variables are by then. -/
structure Remembers (folder : Path) (rs : List Request) : Prop where
  /-- The object that a load returned is returned by every later one; nothing is read for it. -/
  same : ∀ a content, (Store.empty folder).Returned rs a content → ∀ t env,
    ((Store.empty folder).after rs).load t env a = ⟨(Store.empty folder).after rs, [], .ok (some content)⟩
  /-- Until then a load answers what the files say, if the path of the asset's file can be followed. -/
  fresh : ∀ a, (∀ content, ¬ (Store.empty folder).Returned rs a content) → ∀ t env,
    (((Store.empty folder).after rs).load t env a).outcome = promised t env folder a ↔ Followed t folder a
  untouched : ∀ t env a, (∀ content, (((Store.empty folder).after rs).load t env a).outcome ≠ .ok (some content)) →
    (((Store.empty folder).after rs).load t env a).store = (Store.empty folder).after rs
  /-- What is kept of an asset is what its file held when it was first loaded with success. -/
  origin : ∀ a content, ((Store.empty folder).after rs).cached a = some content →
    ∃ earlier t env later, rs = earlier ++ ⟨t, env, a⟩ :: later ∧
      (∀ c, ¬ (Store.empty folder).Returned earlier a c) ∧ promised t env folder a = .ok (some content)
  /-- A load of all assets returns of each what its own load returns. -/
  together : ∀ t env b, (Bundle.load t env ((Store.empty folder).after rs)).2.2 = .ok b → ∀ a,
    (((Store.empty folder).after rs).load t env a).outcome = .ok (b.content a)

theorem remembers (folder : Path) (rs : List Request) : Remembers folder rs := by
  have new : ∀ a, (Store.empty folder).cached a = none := fun _ => rfl
  have at_folder : ((Store.empty folder).after rs).folder = folder := Store.folder_after _ rs
  constructor
  · intro a content returned t env
    exact load_cached ((Store.cached_after_iff new rs a content).mpr returned)
  · intro a none t env
    have unread : ((Store.empty folder).after rs).cached a = .none := (Store.cached_after_eq_none_iff new rs a).mpr none
    have outcome : (((Store.empty folder).after rs).load t env a).outcome = promised t env _ a ↔ Followed t _ a :=
      Store.outcome_load_iff unread
    rwa [at_folder] at outcome
  · intro t env a nothing
    exact Store.store_load_of_nothing nothing
  · intro a content kept
    exact Store.origin_of_cached new kept
  · intro t env b loaded a
    exact Bundle.load_content loaded a

/-- Whatever happens to the files and the variables, a store is after a history what the requests in it have made of it,
and at any point among them, also inside a load of all assets, it remembers what it owes: what was returned once is
returned ever after, what is kept is what was found first, and until then a load answers what the files say, exactly if
the path of the asset's file can be followed. Different assets are kept under different names. -/
theorem history_remembers (folder : Path) (t : Tree) (env : Environment) (xs : List Step) :
    ((⟨t, env, .empty folder⟩ : Shelf).steps xs).store =
      (Store.empty folder).after ((⟨t, env, .empty folder⟩ : Shelf).requestsIn xs) ∧
    (∀ rs, rs <+: (⟨t, env, .empty folder⟩ : Shelf).requestsIn xs → Remembers folder rs) ∧
    ∀ a b : Asset, a.label = b.label → a = b :=
  ⟨Shelf.store_steps _ xs, fun rs _ => remembers folder rs, fun _ _ => label_injective⟩

end

attribute [local instance] Library.plain

/-- The configuration of an installation whose rendezvous host has this address. -/
def pinning : Tree :=
  ⟨⟨.root, []⟩, [(["agent-config.yaml"], .file "rendezvousIP: 10.0.0.5\n".toUTF8.data.toList)]⟩

/-- The address that a loaded configuration pins. -/
def pinTold : Except LoadFault (Option AgentConfig) → Option String
  | .ok (some config) => config.rendezvousIp
  | _ => none

theorem pinTold_eq_some {outcome : Except LoadFault (Option AgentConfig)} {ip : String}
    (h : pinTold outcome = some ip) : ∃ config, outcome = .ok (some config) ∧ config.rendezvousIp = some ip := by
  match outcome with
  | .ok (some config) => exact ⟨config, rfl, h⟩

/-- The pin is told for good, once it was read, also when the file is gone. -/
theorem history_remembers_pin :
    ∃ config : AgentConfig, config.rendezvousIp = some "10.0.0.5" ∧ ∀ t env,
      ((((⟨pinning, .empty, .empty ⟨.here, []⟩⟩ : Shelf).steps
        [.load .agentConfig, .remove ⟨.here, ["agent-config.yaml"]⟩]).store).load t env .agentConfig).outcome =
          .ok (some config) := by
  have told : pinTold ((Store.empty ⟨.here, []⟩).load pinning .empty .agentConfig).outcome = some "10.0.0.5" := by
    decide +kernel
  obtain ⟨config, found, pin⟩ := pinTold_eq_some told
  refine ⟨config, pin, fun t env => ?_⟩
  obtain ⟨replayed, remembers, -⟩ := history_remembers ⟨.here, []⟩ pinning .empty
    [.load .agentConfig, .remove ⟨.here, ["agent-config.yaml"]⟩]
  rw [replayed, (remembers _ (List.prefix_refl _)).same .agentConfig config ⟨[], _, _, [], rfl, found⟩]

/-! ## A file that cannot be told of -/

def longName (n : Nat) : String := String.ofList (List.replicate n 'a')

def deepNames : List String := List.replicate 16 (longName 250) ++ [longName 50]

/-- A folder whose path leaves no room for the path of the hosts' file in it. -/
def deepFolder : Path := ⟨.root, deepNames⟩

/-- Nothing is there but this folder. -/
def deepTree : Tree := ⟨⟨.root, []⟩, [(deepNames, .folder)]⟩

theorem mem_deepNames {name : String} (h : name ∈ deepNames) : ∃ n ≤ 250, name = longName n := by
  rcases List.mem_append.mp h with h | h
  · exact ⟨250, le_rfl, List.eq_of_mem_replicate h⟩
  · exact ⟨50, by decide, List.mem_singleton.mp h⟩

theorem mem_longName {c : Char} {n : Nat} (h : c ∈ (longName n).toList) : c = 'a' := by
  rw [longName, String.toList_ofList] at h
  exact List.eq_of_mem_replicate h

theorem length_longName (n : Nat) : (longName n).toList.length = n := by
  rw [longName, String.toList_ofList, List.length_replicate]

theorem plain_deepNames : ∀ name ∈ deepNames, ∀ c ∈ name.toList, c.toNat < 128 := by
  intro name hname c hc
  obtain ⟨n, _, rfl⟩ := mem_deepNames hname
  rw [mem_longName hc]
  decide

theorem ordinary_deepNames : ∀ name ∈ deepNames, '\x00' ∉ name.toList := by
  intro name hname hc
  obtain ⟨n, _, rfl⟩ := mem_deepNames hname
  exact absurd (mem_longName hc) (by decide)

theorem forward_deepNames : ∀ name ∈ deepNames, name ≠ ".." ∧ Files.sizeOf name ≤ maxNameSize := by
  intro name hname
  have plain := plain_deepNames name hname
  obtain ⟨n, hn, rfl⟩ := mem_deepNames hname
  constructor
  · intro h
    have point : '.' ∈ (longName n).toList := by simp [h]
    exact absurd (mem_longName point) (by decide)
  · rw [sizeOf_plain plain, length_longName]
    exact hn.trans (by decide)

theorem sizeOf_deepNames : (deepNames.map fun name => name.toList.length + 1).sum = 4067 := by
  simp [deepNames, length_longName]

theorem unlocked_deepTree (place : List String) : deepTree.isLockedAt place = false := by
  unfold Tree.isLockedAt deepTree
  rw [List.lookup_cons]
  cases place == deepNames <;> rfl

/-- The folder is there. -/
theorem isFolder_deepFolder : deepTree.isFolder deepFolder = .ok true := by
  have short : Files.sizeOf deepFolder.text = 4067 := by
    rw [Path.sizeOf_text rfl (by simp [deepFolder, deepNames]) plain_deepNames]
    exact sizeOf_deepNames
  have located : deepTree.locate deepFolder = .ok (some deepNames) := by
    have named : (deepFolder.parts.any fun name => name.toList.contains '\x00') = false := by
      simpa [deepFolder] using ordinary_deepNames
    rw [Tree.locate, named, if_neg (by simp), short, if_neg (by decide)]
    exact Tree.walk_along (List.mem_singleton.mpr rfl) unlocked_deepTree rfl forward_deepNames
  rw [Tree.isFolder, located]
  simp [Except.map, Tree.isFolderAt, deepTree]

/-- It cannot be told whether the hosts' file is there. -/
theorem file?_deepFolder : deepTree.file? (deepFolder.child Asset.hosts.fileName) = .error .tooLong := by
  have parsed : Path.parse Asset.hosts.fileName = ⟨.here, ["cluster-manifests", "nmstateconfig.yaml"]⟩ := by decide
  have child : deepFolder.child Asset.hosts.fileName =
      ⟨.root, deepNames ++ ["cluster-manifests", "nmstateconfig.yaml"]⟩ := by
    rw [Path.child, parsed, Path.below, if_pos rfl, deepFolder]
  have plain : ∀ name ∈ deepNames ++ ["cluster-manifests", "nmstateconfig.yaml"], ∀ c ∈ name.toList, c.toNat < 128 := by
    rw [List.forall_mem_append]
    exact ⟨plain_deepNames, by simp⟩
  have ordinary : ∀ name ∈ deepNames ++ ["cluster-manifests", "nmstateconfig.yaml"], '\x00' ∉ name.toList := by
    rw [List.forall_mem_append]
    exact ⟨ordinary_deepNames, by simp⟩
  rw [child]
  refine Tree.file?_of_long ordinary ?_
  rw [Path.sizeOf_text rfl (by simp) plain, List.map_append, List.sum_append, sizeOf_deepNames]
  decide

/-- A store is opened where no file of hosts is, and yet a load of them ends in a fault. -/
theorem deep_folder_breaks :
    Store.openAt deepTree deepFolder = .ok (some (.empty deepFolder)) ∧
      (∀ bytes, deepTree.file? (deepFolder.child Asset.hosts.fileName) ≠ .ok (some bytes)) ∧
      ((Store.empty deepFolder).load deepTree .empty .hosts).outcome ≠ .ok none := by
  refine ⟨?_, ?_, ?_⟩
  · rw [Store.openAt, isFolder_deepFolder]
    rfl
  · simp [file?_deepFolder]
  · have new : (Store.empty deepFolder).cached .hosts = none := rfl
    have hidden : deepTree.file? ((Store.empty deepFolder).pathOf .hosts) = .error .tooLong := file?_deepFolder
    rw [load_hidden new hidden]
    simp

end InstallWatch.Asset
