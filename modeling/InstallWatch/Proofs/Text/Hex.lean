import Mathlib
import InstallWatch.Numeral
import InstallWatch.Proofs.Results

/-!
Hexadecimal numerals. A number below a power of sixteen has one row of so many digits, and its numeral is this row
without the zeros in front.
-/

namespace InstallWatch.Text
open Numeral

/-- Below a bound there are only so many characters to check. -/
theorem exists_ofNat_of_lt {c : Char} {bound : Nat} (h : c.toNat < bound) : ∃ n : Fin bound, c = Char.ofNat n :=
  ⟨⟨c.toNat, h⟩, (Char.ofNat_toNat c).symm⟩

theorem toNat_hexChar_lt {d : Nat} (h : d < 16) : (hexChar d).toNat < 128 := by
  have all : ∀ d : Fin 16, (hexChar d).toNat < 128 := by decide
  exact all ⟨d, h⟩

theorem toLower_hexChar {d : Nat} (h : d < 16) : (hexChar d).toLower = hexChar d := by
  have all : ∀ d : Fin 16, (hexChar d).toLower = hexChar d := by decide
  exact all ⟨d, h⟩

theorem hexValue?_of_high {c : Char} (h : ¬ c.toNat < 128) : hexValue? c = none := by
  have high : ∀ e : Char, e.toNat < 128 → ¬ c ≤ e := fun e he hc => h (lt_of_le_of_lt hc he)
  simp [hexValue?, high '9' (by decide), high 'f' (by decide), high 'F' (by decide)]

/-- A digit stands for the number whose lower-case digit it is in lower case. -/
theorem hexValue?_eq_some_iff {c : Char} {d : Nat} : hexValue? c = some d ↔ d < 16 ∧ c.toLower = hexChar d := by
  by_cases hc : c.toNat < 128
  · obtain ⟨n, rfl⟩ := exists_ofNat_of_lt hc
    have below : ∀ n : Fin 128, ∀ d ∈ hexValue? (Char.ofNat n), d < 16 := by decide +kernel
    have same : ∀ n : Fin 128, ∀ d : Fin 16,
        hexValue? (Char.ofNat n) = some d.val ↔ (Char.ofNat n).toLower = hexChar d := by decide +kernel
    constructor
    · intro h
      have hd : d < 16 := below n d h
      exact ⟨hd, (same n ⟨d, hd⟩).mp h⟩
    · rintro ⟨hd, h⟩
      exact (same n ⟨d, hd⟩).mpr h
  · have kept : c.toLower = c := by
      unfold Char.toLower
      exact dif_neg fun h => hc (lt_of_le_of_lt h.2 (by decide : 'Z'.toNat < 128))
    rw [hexValue?_of_high hc, kept]
    refine iff_of_false (by simp) ?_
    rintro ⟨hd, rfl⟩
    exact hc (toNat_hexChar_lt hd)

theorem mapM_hexValue?_eq_some_iff {s : List Char} {ds : List Nat} :
    s.mapM hexValue? = some ds ↔ (∀ d ∈ ds, d < 16) ∧ s.map Char.toLower = ds.map hexChar := by
  rw [Results.mapM_eq_some_iff, ← List.forall₂_eq_eq_eq, List.forall₂_map_left_iff, List.forall₂_map_right_iff]
  simp only [hexValue?_eq_some_iff]
  constructor
  · intro each
    obtain ⟨digits, same⟩ := (List.forall₂_and_left ds s).mp each.flip
    exact ⟨digits, same.flip⟩
  · rintro ⟨digits, same⟩
    exact ((List.forall₂_and_left ds s).mpr ⟨digits, same.flip⟩).flip

theorem valueOf_append (base : Nat) (ds : List Nat) (d : Nat) :
    valueOf base (ds ++ [d]) = base * valueOf base ds + d := by
  simp [valueOf]

theorem hexDigits_valueOf {ds : List Nat} (digits : ∀ d ∈ ds, d < 16) :
    hexDigits ds.length (valueOf 16 ds) = ds.map hexChar := by
  induction ds using List.reverseRecOn with
  | nil => rfl
  | append_singleton ds d ih =>
    rw [List.forall_mem_append, List.forall_mem_singleton] at digits
    obtain ⟨digits, hd⟩ := digits
    have whole : (16 * valueOf 16 ds + d) / 16 = valueOf 16 ds := by omega
    have last : (16 * valueOf 16 ds + d) % 16 = d := by omega
    rw [valueOf_append, List.length_append, List.length_singleton, hexDigits, whole, last, ih digits, List.map_append]
    rfl

theorem valueOf_lt {ds : List Nat} (digits : ∀ d ∈ ds, d < 16) : valueOf 16 ds < 16 ^ ds.length := by
  induction ds using List.reverseRecOn with
  | nil => decide
  | append_singleton ds d ih =>
    rw [List.forall_mem_append, List.forall_mem_singleton] at digits
    have front := ih digits.1
    rw [valueOf_append, List.length_append, List.length_singleton, pow_succ]
    omega

/-- Every number that is small enough is the value of some row of digits. -/
theorem exists_digits {width n : Nat} (h : n < 16 ^ width) :
    ∃ ds : List Nat, ds.length = width ∧ (∀ d ∈ ds, d < 16) ∧ valueOf 16 ds = n := by
  induction width generalizing n with
  | zero => exact ⟨[], rfl, by simp, by rw [Nat.lt_one_iff.mp h]; rfl⟩
  | succ width ih =>
    obtain ⟨ds, hlength, hds, hvalue⟩ := ih (show n / 16 < 16 ^ width by rw [pow_succ] at h; omega)
    refine ⟨ds ++ [n % 16], by simp [hlength], ?_, ?_⟩
    · rw [List.forall_mem_append, List.forall_mem_singleton]
      exact ⟨hds, Nat.mod_lt n (by decide)⟩
    · rw [valueOf_append, hvalue]
      omega

theorem exists_of_mem_hexDigits {c : Char} {width n : Nat} (h : c ∈ hexDigits width n) : ∃ d < 16, c = hexChar d := by
  induction width generalizing n with
  | zero => cases h
  | succ width ih =>
    rw [hexDigits, List.mem_append, List.mem_singleton] at h
    rcases h with h | rfl
    · exact ih h
    · exact ⟨n % 16, Nat.mod_lt n (by decide), rfl⟩

theorem hexDigits_zero (width : Nat) : hexDigits width 0 = List.replicate width '0' := by
  induction width with
  | zero => rfl
  | succ width ih =>
    rw [hexDigits, Nat.zero_div, ih, List.replicate_succ']
    rfl

/-- A row that is wider than need be starts with zeros. -/
theorem hexDigits_add {width n : Nat} (zeros : Nat) (h : n < 16 ^ width) :
    hexDigits (zeros + width) n = List.replicate zeros '0' ++ hexDigits width n := by
  induction width generalizing n with
  | zero =>
    rw [Nat.lt_one_iff.mp h, Nat.add_zero, hexDigits_zero, hexDigits, List.append_nil]
  | succ width ih =>
    have front : n / 16 < 16 ^ width := by
      rw [pow_succ] at h
      omega
    rw [← Nat.add_assoc, hexDigits, hexDigits, ih front, List.append_assoc]

theorem lt_pow_length_hexNumeral (n : Nat) : n < 16 ^ (hexNumeral n).length := by
  rw [hexNumeral, length_hexDigits]
  calc n < 2 ^ (n.log2 + 1) := Nat.lt_log2_self
    _ ≤ 2 ^ (4 * (n.log2 / 4 + 1)) := Nat.pow_le_pow_right (by decide) (by omega)
    _ = (2 ^ 4) ^ (n.log2 / 4 + 1) := pow_mul 2 4 _

theorem length_hexNumeral_le {width n : Nat} (some : 0 < width) (h : n < 16 ^ width) :
    (hexNumeral n).length ≤ width := by
  rw [hexNumeral, length_hexDigits]
  rcases Nat.eq_zero_or_pos n with rfl | hn
  · exact some
  · have : n.log2 < 4 * width := by
      rw [Nat.log2_lt hn.ne', pow_mul]
      exact h
    omega

/-- A row of digits is a numeral with zeros in front. -/
theorem hexDigits_eq_hexNumeral {width n : Nat} (some : 0 < width) (h : n < 16 ^ width) :
    hexDigits width n = List.replicate (width - (hexNumeral n).length) '0' ++ hexNumeral n := by
  have fits := length_hexNumeral_le some h
  have row := hexDigits_add (width - (hexNumeral n).length) (lt_pow_length_hexNumeral n)
  rw [Nat.sub_add_cancel fits] at row
  rw [row, hexNumeral, length_hexDigits]

end InstallWatch.Text
