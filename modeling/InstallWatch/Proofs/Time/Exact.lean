import Mathlib
import InstallWatch.Decimal.Binary
import InstallWatch.Proofs.Time.Order

/-!
Exact time: the numbers of an ordered field measure seconds without rounding. How often an interval goes into a
timeout is still reckoned as the machine does it.
-/

namespace InstallWatch.Seconds

section
variable {K : Type} [Field K] [LinearOrder K]

/-- The number that the bits of a floating-point number stand for. -/
def exactly (x : Float) : K :=
  (if Decimal.isNegative x then -1 else 1) * (Decimal.Binary.ofFloat x).m * 2 ^ (Decimal.Binary.ofFloat x).q

instance : Seconds K where
  zero := 0
  ofNat? n := some n
  ofFloat := exactly
  times interval timeout := Decimal.ceilRounded timeout interval
  -- both count as signed numbers of 64 bits, waits by thousands of the units of clocks, which are nanoseconds
  longestWait := ((2 ^ 63 - 1) / 1000 : Nat) / 10 ^ 6
  clockEnd := (2 ^ 63 - 1 : Nat) / 10 ^ 9
  decLt := inferInstance

instance : Asymmetric K where
  asymm h := lt_asymm h

theorem shorter_eq_min (a b : K) : shorter a b = min a b := by
  unfold shorter
  rcases lt_or_ge b a with h | h
  · rw [if_pos h, min_eq_right (le_of_lt h)]
  · rw [if_neg (not_lt.mpr h), min_eq_left h]

theorem left_eq_max (now deadline : K) : left now deadline = max 0 (deadline - now) := by
  show (if 0 < deadline - now then deadline - now else 0) = max 0 (deadline - now)
  rcases lt_or_ge 0 (deadline - now) with h | h
  · rw [if_pos h, max_eq_right (le_of_lt h)]
  · rw [if_neg (not_lt.mpr h), max_eq_left h]

end

theorem later_eq_max {K : Type} [Field K] [LinearOrder K] (a b : K) : later a b = max a b := by
  unfold later
  rcases lt_or_ge a b with h | h
  · rw [if_pos h, max_eq_right (le_of_lt h)]
  · rw [if_neg (not_lt.mpr h), max_eq_left h]

/-- Something is left exactly until the deadline. -/
theorem left_pos_iff {K : Type} [Field K] [LinearOrder K] [IsStrictOrderedRing K] (now deadline : K) :
    zero < left now deadline ↔ now < deadline := by
  rw [left_eq_max]
  show 0 < max 0 (deadline - now) ↔ now < deadline
  rw [lt_max_iff, sub_pos]
  exact ⟨fun h => h.resolve_left (lt_irrefl 0), .inr⟩

instance {K : Type} [Field K] [LinearOrder K] [IsStrictOrderedRing K] : Irreversible K where
  reached_later now deadline := by
    rw [left_pos_iff, later_eq_max]
    exact not_lt.mpr (le_max_right _ _)
  reached_add reached forward := by
    rw [left_pos_iff, not_lt] at reached ⊢
    exact reached.trans (le_add_of_nonneg_right (not_lt.mp forward))

theorem longestWait_pos {K : Type} [Field K] [LinearOrder K] [IsStrictOrderedRing K] : zero < (longestWait : K) := by
  show (0 : K) < ((2 ^ 63 - 1) / 1000 : Nat) / 10 ^ 6
  norm_num

end InstallWatch.Seconds

namespace InstallWatch.Lifetime

variable {K C : Type} [Field K] [LinearOrder K]

theorem isExpired_iff [IsStrictOrderedRing K] {l : Lifetime K C} {now deadline : K} (h : l.deadline = some deadline) :
    l.isExpired now = true ↔ deadline ≤ now := by
  simp [isExpired, remaining, h, Seconds.left_pos_iff]

theorem bound_eq_min {l : Lifetime K C} {now deadline timeout : K} (h : l.deadline = some deadline) :
    l.bound now timeout = min timeout (max 0 (deadline - now)) := by
  simp [bound, remaining, h, Seconds.shorter_eq_min, Seconds.left_eq_max]

end InstallWatch.Lifetime
