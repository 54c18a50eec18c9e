import Mathlib
import InstallWatch.Proofs.Yaml.Stray

/-!
Looks of texts. A text that has got the tag of its look fits it, but for numbers in sixties: these look like numbers
however many places they have.
-/

namespace InstallWatch.Yaml
open Scalar

namespace Look

theorem mem_of_mem_dropSign {c : Char} {s : List Char} (h : c ∈ dropSign s) : c ∈ s := by
  unfold dropSign at h
  split at h
  · exact List.mem_cons_of_mem _ h
  · exact List.mem_cons_of_mem _ h
  · exact h

theorem mem_of_splitAt {sep : Char} {s piece : List Char} {more : List (List Char)}
    (h : Text.splitAt sep s = piece :: more) {c : Char} (mem : c ∈ piece) : c ∈ s := by
  induction s generalizing piece more with
  | nil =>
    cases h
    exact mem
  | cons d s ih =>
    unfold Text.splitAt at h
    split at h
    · cases h
      cases mem
    · split at h
      · cases h
        rw [List.mem_singleton.mp mem]
        exact List.mem_cons_self
      · rename_i hs
        cases h
        rcases List.mem_cons.mp mem with rfl | mem
        · exact List.mem_cons_self
        · exact List.mem_cons_of_mem d (ih hs mem)

/-- A number with a point has one, and so have the words for numbers that are none. -/
theorem mem_of_isFloat {s : List Char} (h : isFloat s = true) : '.' ∈ s := by
  have words : ∀ w ∈ [".nan".toList, ".NaN".toList, ".NAN".toList, ".inf".toList, ".Inf".toList, ".INF".toList],
      '.' ∈ w := by decide +kernel
  unfold isFloat at h
  rcases Bool.or_eq_true_iff.mp h with h | h
  · rcases Bool.or_eq_true_iff.mp h with h | h
    · rcases Bool.or_eq_true_iff.mp h with h | h
      · exact words s (List.mem_append_left _ (List.contains_iff_mem.mp h))
      · exact mem_of_mem_dropSign (words _ (List.mem_append_right [".nan".toList, ".NaN".toList, ".NAN".toList]
          (List.contains_iff_mem.mp h)))
    · split at h
      · exact List.mem_cons_self
      · cases h
  · split at h
    · rename_i fraction point
      have mem : '.' ∈ (dropSign s).dropWhile (· ≠ '.') := by
        rw [point]
        exact List.mem_cons_self
      exact mem_of_mem_dropSign ((List.dropWhile_sublist _).mem mem)
    · cases h

theorem exists_digit_of_isNumeral {s : List Char} (h : isNumeral s = true) : ∃ c ∈ s, isDigit c = true := by
  unfold isNumeral at h
  split at h
  · rename_i c s
    exact ⟨c, List.mem_cons_self, (Bool.and_eq_true_iff.mp h).1⟩
  · cases h

/-- A whole number has a digit. -/
theorem exists_digit_of_isInt {s : List Char} (h : isInt s = true) : ∃ c ∈ s, isDigit c = true := by
  suffices digit : ∃ c ∈ dropSign s, isDigit c = true by
    obtain ⟨c, mem, digit⟩ := digit
    exact ⟨c, mem_of_mem_dropSign mem, digit⟩
  have zero : isDigit '0' = true := by decide
  unfold isInt at h
  split at h
  · rename_i t ht
    exact ⟨'0', by simp [ht], zero⟩
  · rename_i t ht
    exact ⟨'0', by simp [ht], zero⟩
  · rename_i t _ _ ht
    exact ⟨'0', by simp [ht], zero⟩
  · split at h
    · rename_i leader more hs
      obtain ⟨c, mem, digit⟩ := exists_digit_of_isNumeral (Bool.and_eq_true_iff.mp h).1
      exact ⟨c, mem_of_splitAt hs mem, digit⟩
    · cases h

theorem lowered_of_isFlag {s : String} (h : isFlag s = true) : Text.lowered s ∈ flagWords := by
  have words : ∀ w ∈ ["yes", "Yes", "YES", "no", "No", "NO", "true", "True", "TRUE", "false", "False", "FALSE",
      "on", "On", "ON", "off", "Off", "OFF"], Text.lowered w ∈ flagWords := by decide +kernel
  exact words s (List.contains_iff_mem.mp h)

end Look

namespace Scalar

theorem not_misfit {t : Tag} {s : String} (other : t ∉ [Tag.bool, Tag.int, Tag.float, Tag.timestamp]) :
    ¬ Misfit t s := by
  intro h
  cases h <;> simp at other

theorem mem_bare {c : Char} {s : String} (mem : c ∈ s.toList) (visible : c ≠ '_') : c ∈ bare s :=
  List.mem_filter.mpr ⟨mem, by simpa using visible⟩

/-- The tag of its look does not fit a text only if it is a number in sixties with a huge place. -/
theorem hugePlace_of_look {s : String} (unbroken : s.toList.getLast? ≠ some '\n') (h : Misfit (Look.tagOf s) s) :
    HugePlace s := by
  have whole : Look.dropFinalBreak s.toList = s.toList := if_neg unbroken
  unfold Look.tagOf at h
  rw [whole] at h
  dsimp only at h
  rw [String.ofList_toList] at h
  split at h
  · exact absurd h (not_misfit (by decide +kernel))
  split at h
  · rename_i flag
    rw [← read_goesAstray_iff, read_bool, flag_goesAstray_iff] at h
    exact absurd (Look.lowered_of_isFlag flag) h
  split at h
  · rename_i float
    rw [← read_goesAstray_iff, read_float, goesAstray_map_iff, number_goesAstray_iff] at h
    refine h.resolve_left fun empty => ?_
    have point := mem_bare (Look.mem_of_isFloat float) (by decide)
    rw [empty] at point
    cases point
  split at h
  · rename_i int
    rw [← read_goesAstray_iff, read_int, whole_goesAstray_iff] at h
    obtain ⟨c, mem, digit⟩ := Look.exists_digit_of_isInt int
    have visible : c ≠ '_' ∧ c ≠ '-' ∧ c ≠ '+' := by
      refine ⟨?_, ?_, ?_⟩ <;>
        · intro same
          subst same
          revert digit
          decide
    have mem := mem_bare mem visible.1
    rcases h with empty | sign | sign
    · rw [empty] at mem
      cases mem
    · rw [sign] at mem
      exact absurd (List.mem_singleton.mp mem) visible.2.1
    · rw [sign] at mem
      exact absurd (List.mem_singleton.mp mem) visible.2.2
  split at h
  · exact absurd h (not_misfit (by decide +kernel))
  split at h
  · exact absurd h (not_misfit (by decide +kernel))
  split at h
  · rename_i time
    rw [← read_goesAstray_iff, read_timestamp, time_goesAstray_iff, whole] at h
    simp [Look.isTimestamp, h] at time
  split at h
  · exact absurd h (not_misfit (by decide +kernel))
  · exact absurd h (not_misfit (by decide +kernel))

end Scalar

end InstallWatch.Yaml
