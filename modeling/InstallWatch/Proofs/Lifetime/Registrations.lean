import Mathlib
import InstallWatch.Lifetime.Scope

/-!
Whose registrations wait for a cancellation. A handle stands for one registration, but what it takes back is the first
callback that is equal to its own. The two agree as long as no handle goes astray: by being used again while an equal
callback is registered, or by finding an equal one before its own, with another one in between. They agree in every run
if no callback is registered twice.
-/

namespace InstallWatch.Scope

/-- What can be done to the registrations. -/
inductive Change where
  | register (c : Callback)
  | unregister (handle : Nat)

def Change.step {T : Type} : Change → Step T
  | .register c => .register c
  | .unregister handle => .unregister handle

/-- The scope after some changes to a new lifetime. -/
def changed {T : Type} [Seconds T] (now : T) (deadline : Option T) (ks : List Change) : Scope T :=
  (start now ⟨deadline, false, []⟩).steps (ks.map Change.step)

/-- The registrations as their handles know them. -/
structure Ledger where
  /-- The callbacks of all registrations, each in the place that its handle names. -/
  made : List Callback
  /-- The registrations that have not been taken back by their own handles, in their order. -/
  standing : List (Nat × Callback)

namespace Ledger

def enter (l : Ledger) : Change → Ledger
  | .register c => ⟨l.made ++ [c], l.standing ++ [(l.made.length, c)]⟩
  | .unregister handle => { l with standing := l.standing.filter (·.1 ≠ handle) }

def ofChanges (ks : List Change) : Ledger := ks.foldl enter ⟨[], []⟩

/-- The callbacks that should wait for the cancellation. -/
def callbacks (l : Ledger) : List Callback := l.standing.map (·.2)

/-- A handle that would take back the registration of another one. -/
inductive Astray (l : Ledger) (handle : Nat) : Prop where
  /-- Its own registration is gone, and one of an equal callback stands. -/
  | spent (c : Callback) (other : Nat) (own : l.made[handle]? = some c) (gone : ∀ r ∈ l.standing, r.1 ≠ handle)
      (stands : (other, c) ∈ l.standing)
  /-- A registration of an equal callback stands before its own, and a different one between them. -/
  | overtaken (c : Callback) (other : Nat) (front between back : List (Nat × Callback))
      (stands : l.standing = front ++ (other, c) :: between ++ (handle, c) :: back)
      (different : ∃ r ∈ between, r.2 ≠ c)

/-- The standing registrations have different handles, each with the callback it was made with. -/
structure Sound (l : Ledger) : Prop where
  distinct : (l.standing.map (·.1)).Nodup
  made : ∀ r ∈ l.standing, l.made[r.1]? = some r.2

theorem Sound.enter {l : Ledger} (h : Sound l) (k : Change) : Sound (l.enter k) := by
  cases k with
  | register c =>
    have below : ∀ r ∈ l.standing, r.1 < l.made.length := by
      intro r hr
      exact (List.getElem?_eq_some_iff.mp (h.made r hr)).1
    constructor
    · have fresh : ∀ n ∈ l.standing.map (·.1), n ≠ l.made.length := by
        intro n hn
        obtain ⟨r, hr, rfl⟩ := List.mem_map.mp hn
        exact (below r hr).ne
      rw [Ledger.enter, List.map_append]
      exact List.nodup_append.mpr ⟨h.distinct, List.nodup_singleton _, by simpa using fresh⟩
    · intro r hr
      rcases List.mem_append.mp hr with hr | hr
      · rw [Ledger.enter, List.getElem?_append_left (below r hr)]
        exact h.made r hr
      · obtain rfl := List.mem_singleton.mp hr
        simp [Ledger.enter]
  | unregister handle =>
    constructor
    · exact h.distinct.sublist (List.filter_sublist.map _)
    · intro r hr
      exact h.made r (List.mem_of_mem_filter hr)

theorem ofChanges_append (ks : List Change) (k : Change) : ofChanges (ks ++ [k]) = (ofChanges ks).enter k := by
  simp [ofChanges]

theorem sound_ofChanges (ks : List Change) : Sound (ofChanges ks) := by
  induction ks using List.reverseRecOn with
  | nil => exact ⟨List.nodup_nil, fun r hr => absurd hr List.not_mem_nil⟩
  | append_singleton ks k ih =>
    rw [ofChanges_append]
    exact ih.enter k

/-- Of the registrations of different handles, one handle takes back its own. -/
theorem Sound.filter_ne {l : Ledger} (h : Sound l) {handle : Nat} {c : Callback} {front back : List (Nat × Callback)}
    (stands : l.standing = front ++ (handle, c) :: back) :
    l.standing.filter (·.1 ≠ handle) = front ++ back := by
  have distinct := h.distinct
  rw [stands] at distinct ⊢
  simp only [List.map_append, List.map_cons, List.nodup_append, List.nodup_cons] at distinct
  obtain ⟨_, ⟨behind, _⟩, apart⟩ := distinct
  have keeps : ∀ rs : List (Nat × Callback), handle ∉ rs.map (·.1) → rs.filter (·.1 ≠ handle) = rs := by
    intro rs hrs
    refine List.filter_eq_self.mpr fun r hr => ?_
    have : r.1 ≠ handle := fun he => hrs (List.mem_map.mpr ⟨r, hr, he⟩)
    simpa using this
  have ahead : handle ∉ front.map (·.1) := fun hm => apart handle hm handle List.mem_cons_self rfl
  rw [List.filter_append, keeps front ahead, List.filter_cons_of_neg (by simp), keeps back behind]

/-- A standing registration has one place. -/
theorem Sound.front_unique {l : Ledger} (h : Sound l) {handle : Nat} {c : Callback}
    {front back front' back' : List (Nat × Callback)} (stands : l.standing = front ++ (handle, c) :: back)
    (stands' : l.standing = front' ++ (handle, c) :: back') : front = front' := by
  have ahead : ∀ {f b}, l.standing = f ++ (handle, c) :: b → l.standing.takeWhile (·.1 ≠ handle) = f := by
    intro f b hs
    have distinct := h.distinct
    rw [hs] at distinct ⊢
    simp only [List.map_append, List.map_cons, List.nodup_append] at distinct
    obtain ⟨_, _, apart⟩ := distinct
    have others : ∀ r ∈ f, decide (r.1 ≠ handle) = true := by
      intro r hr
      simpa using apart r.1 (List.mem_map.mpr ⟨r, hr, rfl⟩) handle List.mem_cons_self
    rw [List.takeWhile_append_of_pos others]
    simp
  exact (ahead stands).symm.trans (ahead stands')

theorem append_singleton_eq_cons_iff {α : Type} {as : List α} {a : α} : as ++ [a] = a :: as ↔ ∀ b ∈ as, b = a := by
  induction as with
  | nil => simp
  | cons b as ih =>
    rw [List.cons_append, List.cons.injEq, List.forall_mem_cons]
    constructor
    · rintro ⟨rfl, h⟩
      exact ⟨rfl, ih.mp h⟩
    · rintro ⟨rfl, h⟩
      exact ⟨rfl, ih.mpr h⟩

/-- To take the first copy out is to take this one out, unless another copy and something else stand before it. -/
theorem erase_append_cons_eq_iff {α : Type} [DecidableEq α] {front back : List α} {a : α} :
    (front ++ a :: back).erase a = front ++ back ↔
      ∀ first between, front = first ++ a :: between → ∀ b ∈ between, b = a := by
  induction front with
  | nil => simp
  | cons f front ih =>
    by_cases hf : f = a
    · subst hf
      have same : (front ++ f :: back = f :: (front ++ back)) ↔ ∀ b ∈ front, b = f := by
        rw [← append_singleton_eq_cons_iff, show front ++ f :: back = (front ++ [f]) ++ back by simp,
          show f :: (front ++ back) = (f :: front) ++ back by simp, List.append_left_inj]
      rw [List.cons_append, List.erase_cons_head, List.cons_append, same]
      constructor
      · intro h first between hs b hb
        cases first with
        | nil =>
          cases hs
          exact h b hb
        | cons g first =>
          cases hs
          exact h b (by simp [hb])
      · intro h
        exact h [] front rfl
    · rw [List.cons_append, List.erase_cons_tail (by simpa using hf), List.cons_append, List.cons.injEq, ih]
      constructor
      · rintro ⟨_, h⟩ first between hs
        cases first with
        | nil =>
          cases hs
          exact absurd rfl hf
        | cons g first =>
          cases hs
          exact h first between rfl
      · intro h
        exact ⟨rfl, fun first between hs => h (f :: first) between (by rw [hs, List.cons_append])⟩

/-- With its own registration gone, a handle should take back nothing. -/
theorem erase_eq_iff_of_gone {l : Ledger} {handle : Nat} {c : Callback} (own : l.made[handle]? = some c)
    (gone : ∀ r ∈ l.standing, r.1 ≠ handle) :
    l.callbacks.erase c = (l.enter (.unregister handle)).callbacks ↔ ¬ Astray l handle := by
  have all : l.standing.filter (·.1 ≠ handle) = l.standing := List.filter_eq_self.mpr (by simpa using gone)
  have kept : (l.enter (.unregister handle)).callbacks = l.callbacks := by
    rw [callbacks, Ledger.enter, all, callbacks]
  rw [kept, List.erase_eq_self_iff]
  constructor
  · intro absent astray
    cases astray with
    | spent c' other own' _ stands =>
      rw [own] at own'
      cases own'
      exact absent (List.mem_map.mpr ⟨_, stands, rfl⟩)
    | overtaken c' other front between back stands => exact gone (handle, c') (by simp [stands]) rfl
  · intro straight hm
    obtain ⟨⟨other, _⟩, stands, rfl⟩ := List.mem_map.mp hm
    exact straight (.spent _ other own gone stands)

/-- A handle whose registration stands should take back this one. -/
theorem Sound.erase_eq_iff_of_stands {l : Ledger} (h : Sound l) {handle : Nat} {c : Callback}
    {front back : List (Nat × Callback)} (stands : l.standing = front ++ (handle, c) :: back) :
    l.callbacks.erase c = (l.enter (.unregister handle)).callbacks ↔ ¬ Astray l handle := by
  have kept : (l.enter (.unregister handle)).callbacks = front.map (·.2) ++ back.map (·.2) := by
    rw [callbacks, Ledger.enter, h.filter_ne stands, List.map_append]
  have all : l.callbacks = front.map (·.2) ++ c :: back.map (·.2) := by
    rw [callbacks, stands, List.map_append, List.map_cons]
  have standing : (handle, c) ∈ l.standing := by simp [stands]
  rw [kept, all, erase_append_cons_eq_iff]
  constructor
  · intro equal astray
    cases astray with
    | spent _ _ _ gone => exact gone _ standing rfl
    | overtaken c' other first between rest stands' different =>
      have same : c' = c := by
        have made := h.made (handle, c') (by simp [stands'])
        rw [h.made _ standing] at made
        exact (Option.some.inj made).symm
      subst same
      have split : front = first ++ (other, c') :: between := h.front_unique stands (by simpa using stands')
      obtain ⟨r, hr, hd⟩ := different
      exact hd (equal (first.map (·.2)) (between.map (·.2)) (by simp [split]) r.2 (List.mem_map.mpr ⟨r, hr, rfl⟩))
  · intro straight first between hf d hd
    by_contra different
    obtain ⟨first, rest, rfl, rfl, hrest⟩ := List.map_eq_append_iff.mp hf
    obtain ⟨⟨other, _⟩, between, rfl, rfl, rfl⟩ := List.map_eq_cons_iff.mp hrest
    obtain ⟨r, hr, rfl⟩ := List.mem_map.mp hd
    exact straight (.overtaken _ other first between back (by simp [stands]) ⟨r, hr, different⟩)

/-- What a handle takes back is its own registration if and only if it does not go astray. -/
theorem Sound.erase_eq_iff {l : Ledger} (h : Sound l) {handle : Nat} {c : Callback} (own : l.made[handle]? = some c) :
    l.callbacks.erase c = (l.enter (.unregister handle)).callbacks ↔ ¬ Astray l handle := by
  by_cases gone : ∀ r ∈ l.standing, r.1 ≠ handle
  · exact erase_eq_iff_of_gone own gone
  · push Not at gone
    obtain ⟨⟨_, c'⟩, hr, rfl⟩ := gone
    have same : c' = c := by
      have made := h.made _ hr
      rw [own] at made
      exact (Option.some.inj made).symm
    obtain ⟨front, back, stands⟩ := List.append_of_mem hr
    exact h.erase_eq_iff_of_stands (same ▸ stands)

/-- A handle that was never given out takes back nothing, and has nothing to go astray for. -/
theorem Sound.not_astray_of_unmade {l : Ledger} (h : Sound l) {handle : Nat} (unmade : l.made[handle]? = none) :
    (l.enter (.unregister handle)).callbacks = l.callbacks ∧ ¬ Astray l handle := by
  have gone : ∀ r ∈ l.standing, r.1 ≠ handle := by
    rintro r hr rfl
    rw [h.made r hr] at unmade
    cases unmade
  have all : l.standing.filter (·.1 ≠ handle) = l.standing := List.filter_eq_self.mpr (by simpa using gone)
  constructor
  · rw [callbacks, Ledger.enter, all, callbacks]
  · intro astray
    cases astray with
    | spent c other own =>
      rw [unmade] at own
      cases own
    | overtaken c other front between back stands => exact gone (handle, c) (by simp [stands]) rfl

/-- Where no callback is registered twice, no handle goes astray. -/
theorem Sound.not_astray_of_nodup {l : Ledger} (h : Sound l) (single : l.made.Nodup) (handle : Nat) :
    ¬ Astray l handle := by
  have sole : ∀ {c : Callback} {i j : Nat}, l.made[i]? = some c → l.made[j]? = some c → i = j := by
    intro c i j hi hj
    obtain ⟨below, _⟩ := List.getElem?_eq_some_iff.mp hi
    exact (List.getElem?_inj below single).mp (hi.trans hj.symm)
  intro astray
  cases astray with
  | spent c other own gone stands => exact gone _ stands (sole (h.made _ stands) own)
  | overtaken c other front between back stands =>
    have same : other = handle := sole (h.made (other, c) (by simp [stands])) (h.made (handle, c) (by simp [stands]))
    have distinct := h.distinct
    simp [stands, same, List.nodup_append] at distinct

theorem made_enter (l : Ledger) (k : Change) : l.made <+: (l.enter k).made := by
  cases k with
  | register c => exact List.prefix_append _ _
  | unregister handle => exact List.prefix_rfl

end Ledger

/-! ## Runs -/

section
variable {T : Type} [Seconds T] (now : T) (deadline : Option T)

/-- The callbacks that wait are those of the registrations that have not been taken back by their own handles. -/
def Keeps (ks : List Change) : Prop :=
  (changed now deadline ks).lifetime.pending = (Ledger.ofChanges ks).callbacks

theorem changed_append (ks : List Change) (k : Change) :
    changed now deadline (ks ++ [k]) = (changed now deadline ks).step k.step := by
  simp [changed, steps]

/-- The handles are those of all registrations, none of which has run. -/
theorem changed_handles (ks : List Change) :
    (changed now deadline ks).lifetime.isCancelled = false ∧
      (changed now deadline ks).handles = (Ledger.ofChanges ks).made.map .held := by
  induction ks using List.reverseRecOn with
  | nil => exact ⟨rfl, rfl⟩
  | append_singleton ks k ih =>
    obtain ⟨live, handles⟩ := ih
    rw [changed_append, Ledger.ofChanges_append]
    cases k with
    | register c => simp [Change.step, step, register, Lifetime.register, live, handles, Ledger.enter]
    | unregister handle =>
      simp only [Change.step, step, unregister]
      split
      · exact ⟨live, handles⟩
      · exact ⟨live, handles⟩

theorem pending_register_changed (ks : List Change) (c : Callback) :
    (changed now deadline (ks ++ [.register c])).lifetime.pending =
      (changed now deadline ks).lifetime.pending ++ [c] := by
  have live := (changed_handles now deadline ks).1
  simp [changed_append, Change.step, step, register, Lifetime.register, live]

theorem pending_unregister_changed (ks : List Change) (handle : Nat) :
    (changed now deadline (ks ++ [.unregister handle])).lifetime.pending =
      match (Ledger.ofChanges ks).made[handle]? with
      | some c => (changed now deadline ks).lifetime.pending.erase c
      | none => (changed now deadline ks).lifetime.pending := by
  have handles := (changed_handles now deadline ks).2
  rw [changed_append]
  simp only [Change.step, step, unregister, handles, List.getElem?_map]
  cases (Ledger.ofChanges ks).made[handle]? <;> rfl

/-- One more change keeps the registrations right, unless it is a handle that goes astray. -/
theorem keeps_append_iff {ks : List Change} (h : Keeps now deadline ks) (k : Change) :
    Keeps now deadline (ks ++ [k]) ↔ ∀ handle, k = .unregister handle → ¬ (Ledger.ofChanges ks).Astray handle := by
  unfold Keeps at h ⊢
  have sound := Ledger.sound_ofChanges ks
  rw [Ledger.ofChanges_append]
  cases k with
  | register c =>
    rw [pending_register_changed, h]
    simp [Ledger.enter, Ledger.callbacks]
  | unregister handle =>
    rw [pending_unregister_changed, h]
    simp only [Change.unregister.injEq, forall_eq']
    cases own : (Ledger.ofChanges ks).made[handle]? with
    | some c => exact sound.erase_eq_iff own
    | none =>
      obtain ⟨same, straight⟩ := sound.not_astray_of_unmade own
      exact iff_of_true same.symm straight

/-- The registrations are right all along if and only if no handle goes astray on the way. -/
theorem keeps_throughout_iff (ks : List Change) :
    (∀ done, done <+: ks → Keeps now deadline done) ↔
      ∀ done handle, done ++ [.unregister handle] <+: ks → ¬ (Ledger.ofChanges done).Astray handle := by
  induction ks using List.reverseRecOn with
  | nil =>
    constructor
    · intro _ done handle h
      simp at h
    · intro _ done h
      obtain rfl := List.prefix_nil.mp h
      rfl
  | append_singleton ks k ih =>
    constructor
    · intro right done handle h
      have sooner : ∀ done, done <+: ks → Keeps now deadline done := fun done hd =>
        right done (hd.trans (List.prefix_append ks [k]))
      rcases List.prefix_concat_iff.mp h with last | h
      · obtain ⟨rfl, hk⟩ := List.append_inj' last rfl
        cases hk
        have kept := right (done ++ [.unregister handle]) List.prefix_rfl
        exact (keeps_append_iff now deadline (sooner done List.prefix_rfl) _).mp kept handle rfl
      · exact ih.mp sooner done handle h
    · intro straight done h
      have sooner := ih.mpr fun done handle hd => straight done handle (hd.trans (List.prefix_append ks [k]))
      rcases List.prefix_concat_iff.mp h with rfl | h
      · refine (keeps_append_iff now deadline (sooner ks List.prefix_rfl) k).mpr ?_
        rintro handle rfl
        exact straight ks handle List.prefix_rfl
      · exact sooner done h

theorem made_prefix {done ks : List Change} (h : done <+: ks) :
    (Ledger.ofChanges done).made <+: (Ledger.ofChanges ks).made := by
  obtain ⟨rest, rfl⟩ := h
  induction rest using List.reverseRecOn with
  | nil => simp
  | append_singleton rest k ih =>
    rw [← List.append_assoc, Ledger.ofChanges_append]
    exact ih.trans (Ledger.made_enter _ k)

theorem keeps_of_nodup {ks : List Change} (single : (Ledger.ofChanges ks).made.Nodup) : Keeps now deadline ks := by
  refine (keeps_throughout_iff now deadline ks).mpr ?_ ks List.prefix_rfl
  intro done handle h
  have fewer : (Ledger.ofChanges done).made <+: (Ledger.ofChanges ks).made :=
    made_prefix ((List.prefix_append done _).trans h)
  exact (Ledger.sound_ofChanges done).not_astray_of_nodup (single.sublist fewer.sublist) handle

theorem callbacks_enter_twice (l : Ledger) (handle : Nat) :
    (l.enter (.unregister handle)).enter (.unregister handle) = l.enter (.unregister handle) := by
  simp [Ledger.enter]

theorem filter_ne_erase (cs : List Callback) (c : Callback) : (cs.erase c).filter (· ≠ c) = cs.filter (· ≠ c) := by
  by_cases hc : c ∈ cs
  · obtain ⟨front, back, _, hcs, he⟩ := List.exists_erase_eq hc
    rw [he, hcs]
    simp
  · rw [List.erase_of_not_mem hc]

/-- The registrations are right all along exactly in the runs where no handle goes astray. So they are where no callback
is registered twice, and there a handle that is used again changes nothing. A handle that goes astray leaves the
registrations of different callbacks as they are. -/
theorem registrations_keep_iff :
    (∀ ks, (∀ done, done <+: ks → Keeps now deadline done) ↔
      ∀ done handle, done ++ [.unregister handle] <+: ks → ¬ (Ledger.ofChanges done).Astray handle) ∧
    (∀ ks, (Ledger.ofChanges ks).made.Nodup → Keeps now deadline ks ∧
      ∀ handle, (changed now deadline (ks ++ [.unregister handle, .unregister handle])).lifetime.pending =
        (changed now deadline (ks ++ [.unregister handle])).lifetime.pending) ∧
    ∀ ks handle c, (Ledger.ofChanges ks).made[handle]? = some c →
      (changed now deadline (ks ++ [.unregister handle])).lifetime.pending.filter (· ≠ c) =
        (changed now deadline ks).lifetime.pending.filter (· ≠ c) := by
  refine ⟨keeps_throughout_iff now deadline, ?_, ?_⟩
  · intro ks single
    refine ⟨keeps_of_nodup now deadline single, fun handle => ?_⟩
    have once : Keeps now deadline (ks ++ [.unregister handle]) :=
      keeps_of_nodup now deadline (by rwa [Ledger.ofChanges_append])
    have twice : Keeps now deadline (ks ++ [.unregister handle] ++ [.unregister handle]) :=
      keeps_of_nodup now deadline (by rwa [Ledger.ofChanges_append, Ledger.ofChanges_append])
    unfold Keeps at once twice
    rw [Ledger.ofChanges_append, Ledger.ofChanges_append, callbacks_enter_twice, ← Ledger.ofChanges_append,
      ← once] at twice
    rw [← twice, List.append_assoc]
    rfl
  · intro ks handle c own
    rw [pending_unregister_changed, own]
    exact filter_ne_erase _ c

end

/-- A handle that is used twice takes back the registration of another one, if it is of the same callback. -/
theorem unregister_twice_takes_other :
    ¬ Keeps (0.0 : Float) none
      [.register (.plain "a"), .register (.plain "a"), .unregister 0, .unregister 0] := by
  unfold Keeps
  decide

/-- Two callbacks, of which one is taken back twice. -/
theorem registrations_keep_distinct :
    let ks : List Change := [.register (.plain "a"), .register (.plain "b"), .unregister 0]
    (Ledger.ofChanges ks).made.Nodup ∧ Keeps (0.0 : Float) none ks ∧
      (changed (0.0 : Float) none (ks ++ [.unregister 0, .unregister 0])).lifetime.pending = [.plain "b"] := by
  intro ks
  have single : (Ledger.ofChanges ks).made.Nodup := by decide
  obtain ⟨kept, again⟩ := (registrations_keep_iff (0.0 : Float) none).2.1 ks single
  refine ⟨single, kept, ?_⟩
  rw [again 0]
  decide

end InstallWatch.Scope
