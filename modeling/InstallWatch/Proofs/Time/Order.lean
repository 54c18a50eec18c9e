import Mathlib
import InstallWatch.Lifetime

/-!
Before and after, for all numbers that measure time. That no two times lie before each other is all that bounding a
timeout needs, and it holds of floating-point numbers as well: their order only misses what is not a number.
-/

namespace InstallWatch.Seconds
open Float.Model

/-- Of two times at most one lies before the other. -/
class Asymmetric (T : Type) [Seconds T] : Prop where
  asymm : ∀ {a b : T}, a < b → ¬ b < a

/-- Whoever waits until a reading has reached it, and what has been reached stays so as time passes. -/
class Irreversible (T : Type) [Seconds T] : Prop where
  reached_later : ∀ now deadline : T, ¬ zero < left (later now deadline) deadline
  reached_add : ∀ {now deadline passed : T}, ¬ zero < left now deadline → ¬ passed < zero →
    ¬ zero < left (now + passed) deadline

section
variable {T : Type} [Seconds T] [Asymmetric T]

theorem not_lt_self (a : T) : ¬ a < a := fun h => Asymmetric.asymm h h

end

theorem compare_ne_lt_of_compare_lt {x y : UnpackedFloat} (h : x.compare y = some .lt) :
    y.compare x ≠ some .lt := by
  intro h'
  cases x with
  | notANumber => cases h
  | infinity s =>
    cases y with
    | notANumber => cases s <;> cases h
    | infinity t => cases s <;> cases t <;> simp [UnpackedFloat.compare] at h h'
    | zero t => cases s <;> simp [UnpackedFloat.compare] at h h'
    | finite t m e hm => cases s <;> simp [UnpackedFloat.compare] at h h'
  | zero s =>
    cases y with
    | notANumber => cases h
    | infinity t => cases t <;> simp [UnpackedFloat.compare] at h h'
    | zero t => simp [UnpackedFloat.compare] at h
    | finite t m e hm => cases t <;> simp [UnpackedFloat.compare] at h h'
  | finite s m e hm =>
    cases y with
    | notANumber => cases h
    | infinity t => cases t <;> simp [UnpackedFloat.compare] at h h'
    | zero t => cases s <;> simp [UnpackedFloat.compare] at h h'
    | finite t m' e' hm' =>
      have swap : (compare e' e).then (compare m' m) = ((compare e e').then (compare m m')).swap := by
        rw [Ordering.swap_then, ← Std.OrientedCmp.eq_swap, ← Std.OrientedCmp.eq_swap]
      cases s <;> cases t <;> simp [UnpackedFloat.compare, swap] at h h' <;> simp_all

theorem compare_eq_lt_of_lt {a b : Float} (h : a < b) : a.toModel.unpack.compare b.toModel.unpack = some .lt := by
  have h : (a.toModel.unpack.compare b.toModel.unpack == some .lt) = true := by
    simpa [LT.lt, Float.lt, Float.Model.lt, UnpackedFloat.lt] using h
  exact eq_of_beq h

instance : Asymmetric Float where
  asymm h h' := compare_ne_lt_of_compare_lt (compare_eq_lt_of_lt h) (compare_eq_lt_of_lt h')

end InstallWatch.Seconds

namespace InstallWatch.Lifetime
variable {T C : Type} [Seconds T]

end InstallWatch.Lifetime
