import Mathlib
import InstallWatch.Lifetime.Scope
import InstallWatch.Proofs.Time.Exact

/-!
What becomes of a lifetime as time goes on. Its deadline stays and a cancellation is never taken back, so that it stays
over once it is over, and the time left never grows; this holds of everything that leads onward in this sense, the steps
of a scope among them. Time is exact here, and never runs backwards.
-/

namespace InstallWatch

namespace Lifetime

section
variable {K C : Type} [Preorder K]

/-- The deadline has been reached. -/
def Reached (l : Lifetime K C) (now : K) : Prop := ∃ deadline, l.deadline = some deadline ∧ deadline ≤ now

/-- What was a lifetime before has become this one by now. -/
structure Onward (l : Lifetime K C) (now : K) (l' : Lifetime K C) (now' : K) : Prop where
  deadline : l'.deadline = l.deadline
  cancelled : l.isCancelled = true → l'.isCancelled = true
  later : now ≤ now'

theorem Onward.refl (l : Lifetime K C) (now : K) : Onward l now l now := ⟨rfl, id, le_rfl⟩

theorem Onward.trans {l l' l'' : Lifetime K C} {now now' now'' : K} (h : Onward l now l' now')
    (h' : Onward l' now' l'' now'') : Onward l now l'' now'' where
  deadline := h'.deadline.trans h.deadline
  cancelled := h'.cancelled ∘ h.cancelled
  later := h.later.trans h'.later

theorem Onward.register (l : Lifetime K C) (c : C) (now : K) : Onward l now ((l.register c).getD l) now := by
  unfold Lifetime.register
  split
  · exact .refl l now
  · exact ⟨rfl, id, le_rfl⟩

theorem Onward.cancel (l : Lifetime K C) (now : K) : Onward l now l.cancel.1 now := by
  unfold Lifetime.cancel
  split
  · exact .refl l now
  · exact ⟨rfl, fun _ => rfl, le_rfl⟩

end

section
variable {K C : Type} [Field K] [LinearOrder K]

/-- What a lifetime says of itself, at any time. -/
structure Lawful (l : Lifetime K C) (now : K) : Prop where
  done_iff : l.isDone now = true ↔ l.isCancelled = true ∨ l.Reached now
  /-- That it is over is reported exactly if it is, as a cancellation whenever there has been one. -/
  reports_iff : ∀ e, l.ending? now = some e ↔
    l.isDone now = true ∧ e = if l.isCancelled then .cancelled else .expired
  remaining_nonneg : ∀ left, l.remaining now = some left → 0 ≤ left
  /-- A timeout that is a time is bounded by itself and by what is left, and comes to nothing at the deadline only. -/
  bound : ∀ timeout, 0 < timeout → 0 ≤ l.bound now timeout ∧ l.bound now timeout ≤ timeout ∧
    (∀ left, l.remaining now = some left → l.bound now timeout ≤ left) ∧
    (l.bound now timeout = 0 ↔ l.Reached now)

/-- What is left at a time is left of the deadline. -/
theorem remaining_eq_some_iff {l : Lifetime K C} {now left : K} :
    l.remaining now = some left ↔ ∃ deadline, l.deadline = some deadline ∧ left = max 0 (deadline - now) := by
  simp [remaining, Seconds.left_eq_max, eq_comm]

end

section
variable {K C : Type} [Field K] [LinearOrder K] [IsStrictOrderedRing K]

theorem isExpired_iff_reached (l : Lifetime K C) (now : K) : l.isExpired now = true ↔ l.Reached now := by
  unfold Reached
  cases h : l.deadline with
  | none => simp [isExpired, remaining, h]
  | some deadline => simp [isExpired_iff h]

theorem bound_lawful (l : Lifetime K C) (now : K) {timeout : K} (pos : 0 < timeout) :
    0 ≤ l.bound now timeout ∧ l.bound now timeout ≤ timeout ∧
    (∀ left, l.remaining now = some left → l.bound now timeout ≤ left) ∧
    (l.bound now timeout = 0 ↔ l.Reached now) := by
  cases h : l.deadline with
  | none =>
    have unbounded : l.bound now timeout = timeout := by simp [Lifetime.bound, remaining, h]
    rw [unbounded]
    refine ⟨pos.le, le_rfl, ?_, iff_of_false pos.ne' ?_⟩
    · simp [remaining, h]
    · simp [Reached, h]
  | some deadline =>
    rw [bound_eq_min h]
    refine ⟨le_min pos.le (le_max_left _ _), min_le_left _ _, ?_, ?_⟩
    · intro left hleft
      obtain ⟨d, hd, rfl⟩ := remaining_eq_some_iff.mp hleft
      rw [h] at hd
      cases hd
      exact min_le_right _ _
    · constructor
      · intro none
        refine ⟨deadline, h, ?_⟩
        by_contra ahead
        have left : 0 < max 0 (deadline - now) := lt_max_of_lt_right (sub_pos.mpr (not_le.mp ahead))
        exact absurd none (lt_min pos left).ne'
      · rintro ⟨d, hd, reached⟩
        rw [h] at hd
        cases hd
        rw [max_eq_left (sub_nonpos.mpr reached), min_eq_right pos.le]

theorem lawful (l : Lifetime K C) (now : K) : Lawful l now where
  done_iff := by rw [isDone, Bool.or_eq_true, isExpired_iff_reached]
  reports_iff e := by
    unfold ending? isDone
    cases l.isCancelled <;> cases l.isExpired now <;> simp [eq_comm]
  remaining_nonneg left hleft := by
    obtain ⟨deadline, -, rfl⟩ := remaining_eq_some_iff.mp hleft
    exact le_max_left _ _
  bound timeout pos := bound_lawful l now pos

/-- What is over stays over. -/
theorem Onward.isDone {l l' : Lifetime K C} {now now' : K} (h : Onward l now l' now') (done : l.isDone now = true) :
    l'.isDone now' = true := by
  rw [(lawful l now).done_iff] at done
  rw [(lawful l' now').done_iff]
  rcases done with cancelled | ⟨deadline, hd, reached⟩
  · exact .inl (h.cancelled cancelled)
  · exact .inr ⟨deadline, h.deadline.trans hd, reached.trans h.later⟩

/-- The time left never grows. -/
theorem Onward.remaining {l l' : Lifetime K C} {now now' : K} (h : Onward l now l' now') :
    (∀ left, l.remaining now = some left → ∃ left', l'.remaining now' = some left' ∧ left' ≤ left) ∧
    (l.remaining now = none → l'.remaining now' = none) := by
  constructor
  · intro left hleft
    obtain ⟨deadline, hd, rfl⟩ := remaining_eq_some_iff.mp hleft
    refine ⟨max 0 (deadline - now'), remaining_eq_some_iff.mpr ⟨deadline, h.deadline.trans hd, rfl⟩, ?_⟩
    exact max_le_max le_rfl (sub_le_sub_left h.later deadline)
  · simp [Lifetime.remaining, h.deadline]

end

end Lifetime

/-! ## Scopes -/

namespace Scope

section
variable {K : Type} [Preorder K]

/-- A scope has gone on to this one. -/
def Onward (s s' : Scope K) : Prop := Lifetime.Onward s.lifetime s.now s'.lifetime s'.now

theorem onward_registerPlain (s : Scope K) (p : PlainCallback) : Onward s (s.registerPlain p).1 := by
  have onward := Lifetime.Onward.register s.lifetime (.ofPlain p) s.now
  unfold registerPlain
  cases h : s.lifetime.register (.ofPlain p) with
  | none => exact .refl _ _
  | some l =>
    rw [h] at onward
    exact onward

theorem onward_registerAll (s : Scope K) (catches : List Raise) (ps : List PlainCallback) :
    Onward s (s.registerAll catches ps).1 := by
  induction ps generalizing s with
  | nil => exact .refl _ _
  | cons p ps ih =>
    have first := onward_registerPlain s p
    unfold registerAll
    cases h : s.registerPlain p with
    | mk s' raised =>
      rw [h] at first
      cases raised with
      | none => exact first.trans (ih s')
      | some r =>
        dsimp only
        split
        · exact first.trans (ih s')
        · exact first

/-- Whatever a callback does, it neither moves the deadline nor takes back a cancellation. -/
theorem onward_run (s : Scope K) (c : Callback) : Onward s (s.run c).1 := by
  have registered := onward_registerAll (s.note c.name) c.catches c.registers
  unfold run
  cases h : (s.note c.name).registerAll c.catches c.registers with
  | mk s' raised =>
    rw [h] at registered
    cases raised with
    | some r => exact registered
    | none =>
      dsimp only
      split
      · exact registered.trans (.cancel _ _)
      · exact registered

theorem onward_runAll (s : Scope K) (cs : List Callback) : Onward s (s.runAll cs).1 := by
  induction cs generalizing s with
  | nil => exact .refl _ _
  | cons c cs ih =>
    have first := onward_run s c
    unfold runAll
    cases h : s.run c with
    | mk s' raised =>
      rw [h] at first
      match raised with
      | none => exact first.trans (ih s')
      | some .error => exact first.trans (ih { s' with entries := s'.entries ++ [c.failure] })
      | some .exit => exact first

theorem onward_cancel (s : Scope K) : Onward s s.cancel.1 := by
  have cancelled := Lifetime.Onward.cancel s.lifetime s.now
  exact cancelled.trans (onward_runAll { s with lifetime := s.lifetime.cancel.1 } s.lifetime.cancel.2)

theorem onward_register (s : Scope K) (c : Callback) : Onward s (s.register c).1 := by
  have onward := Lifetime.Onward.register s.lifetime c s.now
  have ran := onward_run s c
  unfold register
  cases h : s.lifetime.register c with
  | none =>
    dsimp only
    cases hr : s.run c with
    | mk s' raised =>
      rw [hr] at ran
      cases raised with
      | none => exact ran
      | some r => exact ran
  | some l =>
    rw [h] at onward
    exact onward

theorem onward_unregister (s : Scope K) (handle : Nat) : Onward s (s.unregister handle) := by
  unfold unregister
  split
  · exact ⟨rfl, id, le_rfl⟩
  · exact .refl _ _

end

section
variable {K : Type} [Field K] [LinearOrder K] [IsStrictOrderedRing K]

/-- The clock does not go back. -/
def Step.Forward : Step K → Prop
  | .advance seconds => 0 ≤ seconds
  | _ => True

theorem onward_step (s : Scope K) {x : Step K} (forward : x.Forward) : Onward s (s.step x) := by
  cases x with
  | register c => exact onward_register s c
  | unregister handle => exact onward_unregister s handle
  | cancel => exact onward_cancel s
  | advance seconds => exact ⟨rfl, id, le_add_of_nonneg_right forward⟩

theorem onward_steps (s : Scope K) {xs : List (Step K)} (forward : ∀ x ∈ xs, x.Forward) : Onward s (s.steps xs) := by
  induction xs generalizing s with
  | nil => exact Lifetime.Onward.refl _ _
  | cons x xs ih =>
    obtain ⟨first, rest⟩ := List.forall_mem_cons.mp forward
    exact (onward_step s first).trans (ih (s.step x) rest)

end

end Scope

end InstallWatch
