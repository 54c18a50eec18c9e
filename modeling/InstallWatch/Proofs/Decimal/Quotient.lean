import Mathlib
import InstallWatch.Decimal.Quotient

/-!
Rounding a quotient does not spoil its ceiling. Of two whole numbers below `2 ^ 53` the quotient is either whole, and
then rounds to no more, or exceeds a whole number by so much that fifty-three binary digits show it.
-/

namespace InstallWatch.Decimal

theorem ceilDiv_le_iff {a b n : Nat} (hb : 0 < b) : ceilDiv a b ≤ n ↔ a ≤ n * b := by
  unfold ceilDiv
  rw [Nat.div_le_iff_le_mul_add_pred hb, Nat.mul_comm b n]
  omega

theorem roundedDiv_le {a b n : Nat} (hb : 0 < b) (h : a ≤ n * b) : roundedDiv a b ≤ n := by
  have parts : b * (a / b) + a % b = a := Nat.div_add_mod a b
  have below : a / b ≤ n := Nat.div_le_of_le_mul (by rwa [Nat.mul_comm b n])
  unfold roundedDiv
  simp only []
  by_cases hq : a / b = n
  · have whole : a % b = 0 := by
      rw [hq, Nat.mul_comm b n] at parts
      omega
    rw [whole, if_neg (by omega)]
    exact below
  · split <;> omega

/-- What exceeds a whole number by more than a half does not round down to it. -/
theorem lt_roundedDiv {a b n : Nat} (hb : 0 < b) (h : 2 * (n * b) + b < 2 * a) : n < roundedDiv a b := by
  have parts : b * (a / b) + a % b = a := Nat.div_add_mod a b
  have rest : a % b < b := Nat.mod_lt a hb
  have below : n ≤ a / b := by
    rw [Nat.le_div_iff_mul_le hb]
    omega
  unfold roundedDiv
  simp only []
  by_cases hq : a / b = n
  · rw [hq, Nat.mul_comm b n] at parts
    rw [if_pos (.inl (by omega))]
    omega
  · split <;> omega

/-- Fifty-three digits are kept of a quotient of such numbers. -/
theorem lastPlace_spec {a b : Nat} (ha : 0 < a) (hb : 0 < b) (ha' : a < 2 ^ 53) (hb' : b < 2 ^ 53) :
    ∃ k : Nat, lastPlace a b = -(k : Int) ∧ 2 ^ 52 * b ≤ a * 2 ^ k := by
  have hla : a.log2 < 53 := (Nat.log2_lt (Nat.ne_of_gt ha)).mpr ha'
  have hlb : b.log2 < 53 := (Nat.log2_lt (Nat.ne_of_gt hb)).mpr hb'
  have low : 2 ^ a.log2 ≤ a := Nat.log2_self_le (Nat.ne_of_gt ha)
  have high : b < 2 ^ (b.log2 + 1) := Nat.lt_log2_self
  obtain ⟨g, hg⟩ : ∃ g : Nat, (a.log2 : Int) - b.log2 - 53 = -(g : Int) := ⟨53 + b.log2 - a.log2, by omega⟩
  have exponents : 52 + (b.log2 + 1) = a.log2 + g := by omega
  have kept : 2 ^ 52 * b ≤ a * 2 ^ g := by
    calc 2 ^ 52 * b ≤ 2 ^ 52 * 2 ^ (b.log2 + 1) := Nat.mul_le_mul_left _ (Nat.le_of_lt high)
      _ = 2 ^ a.log2 * 2 ^ g := by rw [← Nat.pow_add, exponents, Nat.pow_add]
      _ ≤ a * 2 ^ g := Nat.mul_le_mul_right _ low
  unfold lastPlace
  simp only [hg, Int.neg_neg, Int.toNat_natCast, Int.toNat_neg_natCast, Nat.pow_eq, Nat.pow_zero, Nat.mul_one]
  by_cases more : 2 ^ 53 ≤ a * 2 ^ g / b
  · refine ⟨g - 1, ?_, ?_⟩
    · rw [if_pos more]
      omega
    · have more := (Nat.le_div_iff_mul_le hb).mp more
      have shift : 2 ^ g = 2 * 2 ^ (g - 1) := by
        rw [← Nat.pow_succ']
        congr 1
        omega
      rw [shift, Nat.mul_left_comm] at more
      omega
  · refine ⟨g, ?_, kept⟩
    rw [if_neg more]
    omega

/-- The rounded quotient of such numbers has the ceiling of the exact one. -/
theorem ceilRounded_eq_ceilDiv {a b : Nat} (ha : 0 < a) (hb : 0 < b) (ha' : a < 2 ^ 53) (hb' : b < 2 ^ 53) :
    ceilRounded a b = ceilDiv a b := by
  obtain ⟨k, hk, kept⟩ := lastPlace_spec ha hb ha' hb'
  have scaled : ceilRounded a b = ceilDiv (roundedDiv (a * 2 ^ k) b) (2 ^ k) := by
    simp [ceilRounded, hk]
  have least : b < 2 * 2 ^ k := by
    have : a * 2 ^ k < 2 ^ 53 * 2 ^ k := Nat.mul_lt_mul_of_pos_right ha' (Nat.two_pow_pos k)
    omega
  have same : ∀ n, ceilDiv (roundedDiv (a * 2 ^ k) b) (2 ^ k) ≤ n ↔ ceilDiv a b ≤ n := by
    intro n
    rw [ceilDiv_le_iff (Nat.two_pow_pos k), ceilDiv_le_iff hb]
    constructor
    · intro h
      refine Nat.le_of_not_lt fun hn => ?_
      have beyond : (n * b + 1) * 2 ^ k ≤ a * 2 ^ k := Nat.mul_le_mul_right _ (by omega)
      have : n * 2 ^ k < roundedDiv (a * 2 ^ k) b := by
        refine lt_roundedDiv hb ?_
        rw [Nat.add_mul, Nat.mul_right_comm] at beyond
        omega
      omega
    · intro h
      refine roundedDiv_le hb ?_
      rw [Nat.mul_right_comm]
      exact Nat.mul_le_mul_right _ h
  rw [scaled]
  exact Nat.le_antisymm ((same _).mpr (Nat.le_refl _)) ((same _).mp (Nat.le_refl _))

end InstallWatch.Decimal
